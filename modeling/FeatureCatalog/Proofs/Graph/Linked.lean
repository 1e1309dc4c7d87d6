import FeatureCatalog.Proofs.Graph.Complaint
import FeatureCatalog.Proofs.Graph.Cycle
import FeatureCatalog.Proofs.Graph.Link
import FeatureCatalog.Proofs.Graph.Part
import Mathlib.Data.List.Forall2

/-! What linking makes of a project. The key of an entity is its place among the entities of its
type in the order of their ids, so it depends on the id alone; and every reference in the graph is
the key of the id that the bag of the entity lists there. -/

namespace FeatureCatalog

namespace ProjectPayload

variable (p : ProjectPayload)

/-- The entities of one type, in the order of their ids. -/
def listed (type : EntityType) : List (String × Entity) :=
  p.entities.entries.filter fun e => e.2.type = type

/-- The place of an id among those of the entities of one type. -/
def place? (type : EntityType) (id : EntityId) : Option Nat :=
  (p.listed type).findIdx? fun e => e.1 == id.text

/-- The key of the source with the given id. -/
def sourceKey? (id : EntityId) : Option SourceKey := (p.place? .source id).map SourceKey.mk

/-- The key of the anchor with the given id. -/
def anchorKey? (id : EntityId) : Option AnchorKey := (p.place? .anchor id).map AnchorKey.mk

/-- The key of the anchored feature with the given id. -/
def featureKey? (id : EntityId) : Option FeatureKey :=
  (p.place? .anchorFeature id).map FeatureKey.mk

/-- The key of the derived feature with the given id. -/
def derivedKey? (id : EntityId) : Option DerivedKey :=
  (p.place? .derivedFeature id).map DerivedKey.mk

variable {p} {type : EntityType} {id : EntityId} {i : Nat}

theorem lt_of_place? (h : p.place? type id = some i) : i < (p.listed type).length :=
  (List.findIdx?_eq_some_iff_getElem.1 h).1

/-- At the place of an id stands the entity that is listed under it. -/
theorem getElem_of_place? (h : p.place? type id = some i) :
    ∃ e, p.entities.get? id.text = some e ∧ (p.listed type)[i]? = some (id.text, e) := by
  obtain ⟨hi, hkey, -⟩ := List.findIdx?_eq_some_iff_getElem.1 h
  have hget : (p.listed type)[i] = (id.text, (p.listed type)[i].2) :=
    Prod.ext (beq_iff_eq.1 hkey) rfl
  refine ⟨(p.listed type)[i].2, ?_, List.getElem?_eq_some_iff.2 ⟨hi, hget⟩⟩
  have hmem : (id.text, (p.listed type)[i].2) ∈ p.listed type := hget ▸ List.getElem_mem hi
  exact Dict.mem_entries.1 (List.mem_of_mem_filter hmem)

/-- What stands for the entities of a type stands for each of them at its place. -/
theorem exists_of_place? {α : Type} {R : String × Entity → α → Prop} {as : List α}
    (has : List.Forall₂ R (p.listed type) as) (h : p.place? type id = some i) (default : α) :
    ∃ e, p.entities.get? id.text = some e ∧ R (id.text, e) (as.getD i default) := by
  obtain ⟨e, he, hget⟩ := getElem_of_place? h
  obtain ⟨hi, hentity⟩ := List.getElem?_eq_some_iff.1 hget
  have hi' : i < as.length := has.length_eq ▸ hi
  refine ⟨e, he, ?_⟩
  rw [List.getD_eq_getElem _ _ hi', ← hentity]
  exact has.get hi hi'

end ProjectPayload

namespace DerivedFeature

variable (d : DerivedFeature)

theorem addInputs_anchored (keys : List FeatureKey) :
    d.addInputs (keys.map .anchored) = { d with anchoredInputs := d.anchoredInputs ++ keys } := by
  unfold addInputs
  induction keys generalizing d with
  | nil => simp
  | cons k rest ih => simp [ih, addInput]

theorem addInputs_derived (keys : List DerivedKey) :
    d.addInputs (keys.map .derived) = { d with derivedInputs := d.derivedInputs ++ keys } := by
  unfold addInputs
  induction keys generalizing d with
  | nil => simp
  | cons k rest ih => simp [ih, addInput]

theorem registration_addInputs (refs : List FeatureRef) :
    (d.addInputs refs).registration = d.registration := by
  unfold addInputs
  induction refs generalizing d with
  | nil => rfl
  | cons ref rest ih => exact (ih (d.addInput ref)).trans (by cases ref <;> rfl)

variable {d}

/-- Where there were no inputs, those that are added are all. -/
theorem addInputs_of_inputs_eq_nil (h : d.inputs = []) (anchored : List FeatureKey)
    (derived : List DerivedKey) :
    d.addInputs (anchored.map .anchored ++ derived.map .derived) =
      { d with anchoredInputs := anchored, derivedInputs := derived } := by
  obtain ⟨hanchored, hderived⟩ := List.append_eq_nil_iff.1 h
  rw [List.map_eq_nil_iff] at hanchored hderived
  calc d.addInputs (anchored.map .anchored ++ derived.map .derived)
      = (d.addInputs (anchored.map .anchored)).addInputs (derived.map .derived) := by
        unfold addInputs
        exact List.foldl_append
    _ = { d with anchoredInputs := anchored, derivedInputs := derived } := by
        rw [addInputs_anchored, addInputs_derived, hanchored, hderived]
        rfl

theorem Detached.inputs_eq_nil_of_decode {id : String} {attrs : Bag} {d : Detached}
    (h : Detached.decode id attrs = .ok d) : d.feature.inputs = [] := by
  obtain ⟨_, -, h⟩ := bind_eq_ok.1 h
  obtain ⟨_, -, h⟩ := bind_eq_ok.1 h
  obtain ⟨_, -, h⟩ := bind_eq_ok.1 h
  obtain rfl := return_eq_ok.1 h
  rfl

end DerivedFeature

theorem Part.ReadFrom.inputs_eq_nil {id : String} {e : Entity} {d : DerivedFeature.Detached}
    (h : (Part.derived d).ReadFrom id e) : d.feature.inputs = [] := by
  cases h with
  | @derived d _ _ _ hdecode =>
    have hinputs : d.feature.inputs = [] := DerivedFeature.Detached.inputs_eq_nil_of_decode hdecode
    exact hinputs

/-- The anchor is the one that was read, with keys for the ids in it. -/
structure Anchor.LinkedFrom (p : ProjectPayload) (r : Registration) (d : Anchor.Detached)
    (a : Anchor) : Prop where
  name : a.name = d.name
  source : p.sourceKey? d.source.id = some a.source
  features : d.features.map (fun ref => p.featureKey? ref.id) = a.features.map some
  tags : a.tags = d.tags.getD .empty
  registration : a.registration = some r

/-- The derived feature is the one that was read, to which inputs have been added: the keys for the
anchored ids and then those for the derived ids. -/
structure DerivedFeature.LinkedFrom (p : ProjectPayload) (d : DerivedFeature.Detached)
    (f : DerivedFeature) : Prop where
  body : f = d.feature.addInputs f.inputs
  inputs : d.anchored.map (fun id => (p.featureKey? id).map .anchored) ++
    d.derived.map (fun id => (p.derivedKey? id).map .derived) = f.inputs.map some

theorem Anchor.LinkedFrom.exists_id {p : ProjectPayload} {r : Registration} {d : Anchor.Detached}
    {a : Anchor} (h : a.LinkedFrom p r d) {k : FeatureKey} (hk : k ∈ a.features) :
    ∃ id, p.featureKey? id = some k := by
  have hmem : some k ∈ a.features.map some := List.mem_map_of_mem hk
  rw [← h.features] at hmem
  obtain ⟨ref, -, hkey⟩ := List.mem_map.1 hmem
  exact ⟨ref.id, hkey⟩

namespace DerivedFeature.LinkedFrom

variable {p : ProjectPayload} {d : DerivedFeature.Detached} {f : DerivedFeature}
  (h : f.LinkedFrom p d)
include h

theorem mem_keys {input : FeatureRef} (hinput : input ∈ f.inputs) :
    some input ∈ d.anchored.map (fun id => (p.featureKey? id).map .anchored) ++
      d.derived.map (fun id => (p.derivedKey? id).map .derived) :=
  h.inputs ▸ List.mem_map_of_mem hinput

theorem exists_id_of_anchored {k : FeatureKey} (hk : k ∈ f.anchoredInputs) :
    ∃ id ∈ d.anchored, p.featureKey? id = some k := by
  have hmem := h.mem_keys (List.mem_append_left _ (List.mem_map_of_mem hk))
  simpa using hmem

theorem exists_id_of_derived {k : DerivedKey} (hk : k ∈ f.derivedInputs) :
    ∃ id ∈ d.derived, p.derivedKey? id = some k := by
  have hmem := h.mem_keys (List.mem_append_right _ (List.mem_map_of_mem hk))
  simpa using hmem

end DerivedFeature.LinkedFrom

/-- The graph has one entity for each of those of the project, in the order of ids. -/
structure Graph.LinkedFrom (g : Graph) (p : ProjectPayload) : Prop where
  sources : List.Forall₂ (fun e s => (Part.source s).ReadFrom e.1 e.2) (p.listed .source) g.sources
  features : List.Forall₂ (fun e f => (Part.feature f).ReadFrom e.1 e.2)
    (p.listed .anchorFeature) g.features
  anchors : List.Forall₂ (fun e a => ∃ r d, (Part.anchor r d).ReadFrom e.1 e.2 ∧ a.LinkedFrom p r d)
    (p.listed .anchor) g.anchors
  derived : List.Forall₂ (fun e f => ∃ d, (Part.derived d).ReadFrom e.1 e.2 ∧ f.LinkedFrom p d)
    (p.listed .derivedFeature) g.derived

namespace Parts

variable {α : Type} {kind? : Part → Option α} {type : EntityType} {parts : Parts}
  {p : ProjectPayload}

/-- The parts are what the entities of the project were read as, one for each, in the order of
ids. -/
def AreOf (parts : Parts) (entries : List (String × Entity)) : Prop :=
  List.Forall₂ (fun e q => q.1 = e.1 ∧ q.2.ReadFrom e.1 e.2) entries parts

theorem areOf_of_ofEntities {entries : List (String × Entity)}
    (h : ofEntities entries = .ok parts) : parts.AreOf entries := by
  refine (forall₂_of_collect h rfl ofEntities_cons).imp fun e q hq => ?_
  obtain ⟨part, hpart, rfl⟩ := map_eq_ok.1 hq
  exact ⟨rfl, Part.readFrom_of_ofEntity hpart⟩

/-- Parts of the kind are those that entities of the type are read as. -/
def IsKind (kind? : Part → Option α) (type : EntityType) : Prop :=
  ∀ {part id e}, Part.ReadFrom id e part → ((kind? part).isSome ↔ e.type = type)

theorem isKind_source : IsKind Part.source? .source := by
  intro part id e h
  cases h <;> simp [Part.source?, *]

theorem isKind_anchor : IsKind Part.anchor? .anchor := by
  intro part id e h
  cases h <;> simp [Part.anchor?, *]

theorem isKind_feature : IsKind Part.feature? .anchorFeature := by
  intro part id e h
  cases h <;> simp [Part.feature?, *]

theorem isKind_derived : IsKind Part.derived? .derivedFeature := by
  intro part id e h
  cases h <;> simp [Part.derived?, *]

/-- The parts of a kind are those of the entities of a type. -/
theorem AreOf.pick {entries : List (String × Entity)} (h : parts.AreOf entries)
    (hkind : IsKind kind? type) :
    List.Forall₂ (fun e q => q.1 = e.1 ∧ ∃ part, Part.ReadFrom e.1 e.2 part ∧ kind? part = some q.2)
      (entries.filter fun e => e.2.type = type) (parts.pick kind?) := by
  induction h with
  | nil => exact .nil
  | @cons e q entries parts hread _ ih =>
    obtain ⟨hid, hread⟩ := hread
    have hiff := hkind hread
    unfold Parts.pick at ih ⊢
    cases hpart : kind? q.2 with
    | none =>
      have htype : e.2.type ≠ type := by simpa [hpart] using hiff
      rw [List.filter_cons_of_neg (by simpa using htype),
        List.filterMap_cons_none (by rw [hpart]; rfl)]
      exact ih
    | some a =>
      have htype : e.2.type = type := by simpa [hpart] using hiff
      rw [List.filter_cons_of_pos (by simpa using htype),
        List.filterMap_cons_some (by rw [hpart]; rfl)]
      exact .cons ⟨hid, q.2, hread, hpart⟩ ih

theorem AreOf.indexOf? (h : parts.AreOf p.entities.entries) (hkind : IsKind kind? type)
    (id : EntityId) : parts.indexOf? kind? id = p.place? type id := by
  have hkeys : (parts.pick kind?).map (·.1) = (p.listed type).map (·.1) := by
    have hids := (h.pick hkind).imp fun _ _ hq => hq.1.symm
    rw [← List.forall₂_map_right_iff, ← List.forall₂_map_left_iff, List.forall₂_eq_eq_eq] at hids
    exact hids.symm
  have hfind : ∀ {β : Type} (l : List (String × β)),
      l.findIdx? (fun e => e.1 == id.text) = (l.map (·.1)).findIdx? (· == id.text) := by
    intro β l
    rw [List.findIdx?_map]
    rfl
  unfold Parts.indexOf? ProjectPayload.place?
  rw [hfind, hfind, hkeys]

section Resolve

variable (h : parts.AreOf p.entities.entries) (hkind : IsKind kind? type) {user : String}
include h hkind

theorem AreOf.place?_of_resolve {id : EntityId} {i : Nat}
    (hi : parts.resolve kind? user id = .ok i) : p.place? type id = some i := by
  unfold resolve at hi
  rw [h.indexOf? hkind] at hi
  split at hi
  · rename_i j hj
    obtain rfl := Except.ok.inj hi
    exact hj
  · cases hi

/-- References that have been resolved are the places of their ids, in order. -/
theorem AreOf.places_of_resolveAll {ids : List EntityId} {places : List Nat}
    (hplaces : parts.resolveAll kind? user ids = .ok places) :
    ids.map (p.place? type) = places.map some := by
  have hall := forall₂_of_collect hplaces rfl fun _ _ => rfl
  have heq := hall.imp fun id i hi => h.place?_of_resolve hkind hi
  rwa [← List.forall₂_map_right_iff, ← List.forall₂_map_left_iff, List.forall₂_eq_eq_eq] at heq

end Resolve

theorem AreOf.linkedFrom_of_linkAnchor (h : parts.AreOf p.entities.entries) {id : String}
    {r : Registration} {d : Anchor.Detached} {a : Anchor} (ha : parts.linkAnchor id r d = .ok a) :
    a.LinkedFrom p r d := by
  obtain ⟨source, hsource, ha⟩ := bind_eq_ok.1 ha
  obtain ⟨features, hfeatures, ha⟩ := bind_eq_ok.1 ha
  obtain rfl := return_eq_ok.1 ha
  have hplace := h.place?_of_resolve isKind_source hsource
  have hplaces := h.places_of_resolveAll isKind_feature hfeatures
  refine ⟨rfl, ?_, ?_, rfl, rfl⟩
  · rw [ProjectPayload.sourceKey?, hplace, Option.map_some]
  · have hkeys := congrArg (List.map (Option.map FeatureKey.mk)) hplaces
    simpa [ProjectPayload.featureKey?, Function.comp_def] using hkeys

theorem AreOf.linkedFrom_of_linkDerived (h : parts.AreOf p.entities.entries) {id : String}
    {d : DerivedFeature.Detached} {f : DerivedFeature} (hd : d.feature.inputs = [])
    (hf : parts.linkDerived id d = .ok f) : f.LinkedFrom p d := by
  obtain ⟨anchored, hanchored, hf⟩ := bind_eq_ok.1 hf
  obtain ⟨derived, hderived, hf⟩ := bind_eq_ok.1 hf
  obtain rfl := return_eq_ok.1 hf
  have hanchored := h.places_of_resolveAll isKind_feature hanchored
  have hderived := h.places_of_resolveAll isKind_derived hderived
  refine ⟨(DerivedFeature.addInputs_of_inputs_eq_nil hd _ _).symm, ?_⟩
  have hanchoredKeys := congrArg (List.map (Option.map (FeatureRef.anchored ⟨·⟩))) hanchored
  have hderivedKeys := congrArg (List.map (Option.map (FeatureRef.derived ⟨·⟩))) hderived
  have hkeys := congrArg₂ (· ++ ·) hanchoredKeys hderivedKeys
  simpa [ProjectPayload.featureKey?, ProjectPayload.derivedKey?, DerivedFeature.inputs,
    Function.comp_def] using hkeys

/-- What every part of the kind gives rise to stands for the entities of the type, in order. -/
theorem AreOf.forall₂_pick {β : Type} {R : String × Entity → β → Prop} {S : String × α → β → Prop}
    (h : parts.AreOf p.entities.entries) (hkind : IsKind kind? type) {bs : List β}
    (hbs : List.Forall₂ S (parts.pick kind?) bs)
    (hR : ∀ {id e part a b}, Part.ReadFrom id e part → kind? part = some a → S (id, a) b →
      R (id, e) b) :
    List.Forall₂ R (p.listed type) bs := by
  have hpick := h.pick hkind
  unfold ProjectPayload.listed
  generalize p.entities.entries.filter _ = entries at hpick
  generalize parts.pick kind? = picked at hpick hbs
  induction hpick generalizing bs with
  | nil =>
    cases hbs
    exact .nil
  | @cons e q _ _ hq _ ih =>
    obtain ⟨id, a⟩ := q
    obtain ⟨rfl, part, hread, ha⟩ := hq
    cases hbs with
    | cons hb hrest => exact .cons (hR hread ha hb) (ih hrest)

end Parts

namespace Graph

variable {g : Graph} {p : ProjectPayload}

theorem ofPayload_eq_ok_iff : ofPayload p = .ok g ↔
    ∃ parts, Parts.ofEntities p.entities.entries = .ok parts ∧
      parts.linkAnchors (parts.pick Part.anchor?) = .ok g.anchors ∧
      parts.linkDeriveds (parts.pick Part.derived?) = .ok g.derived ∧
      g.sources = (parts.pick Part.source?).map (·.2) ∧
      g.features = (parts.pick Part.feature?).map (·.2) ∧
      g.relations = p.relations ∧ ∃ order, g.order g.derivedKeys = .ok order := by
  constructor
  · intro h
    obtain ⟨parts, hparts, h⟩ := bind_eq_ok.1 h
    obtain ⟨anchors, hanchors, h⟩ := bind_eq_ok.1 h
    obtain ⟨derived, hderived, h⟩ := bind_eq_ok.1 h
    obtain ⟨order, horder, h⟩ := bind_eq_ok.1 h
    obtain rfl := return_eq_ok.1 h
    exact ⟨parts, hparts, hanchors, hderived, rfl, rfl, rfl, order, horder⟩
  · rintro ⟨parts, hparts, hanchors, hderived, hsources, hfeatures, hrelations, order, horder⟩
    obtain ⟨sources, anchors, features, derived, relations⟩ := g
    subst hsources hfeatures hrelations
    refine bind_eq_ok.2 ⟨parts, hparts, bind_eq_ok.2 ⟨anchors, hanchors, ?_⟩⟩
    exact bind_eq_ok.2 ⟨derived, hderived, bind_eq_ok.2 ⟨order, horder, rfl⟩⟩

/-- The graph of a project, whether its derived features have an order or not. -/
def links (p : ProjectPayload) : Except CatalogError Graph := do
  let parts ← Parts.ofEntities p.entities.entries
  let anchors ← parts.linkAnchors (parts.pick Part.anchor?)
  let derived ← parts.linkDeriveds (parts.pick Part.derived?)
  return {
    sources := (parts.pick Part.source?).map (·.2)
    anchors
    features := (parts.pick Part.feature?).map (·.2)
    derived
    relations := p.relations }

theorem ofPayload_eq_links (p : ProjectPayload) : ofPayload p = do
    let g ← links p
    let _ ← g.order g.derivedKeys
    return g := by
  simp only [ofPayload, links, bind_assoc, pure_bind]

/-- What is left to find out of a graph that has been linked is whether it has an order. -/
theorem ofPayload_of_links (h : links p = .ok g) :
    ofPayload p = (g.order g.derivedKeys).map fun _ => g := by
  rw [ofPayload_eq_links, h]
  change (do let _ ← g.order g.derivedKeys; return g) = _
  cases g.order g.derivedKeys <;> rfl

theorem linkedFrom_of_links (h : links p = .ok g) : g.LinkedFrom p := by
  obtain ⟨parts, hparts, h⟩ := bind_eq_ok.1 h
  obtain ⟨anchors, hanchors, h⟩ := bind_eq_ok.1 h
  obtain ⟨derived, hderived, h⟩ := bind_eq_ok.1 h
  obtain rfl := return_eq_ok.1 h
  have hof := Parts.areOf_of_ofEntities hparts
  have hself : ∀ {α : Type} (picked : List (String × α)),
      List.Forall₂ (fun q a => q.2 = a) picked (picked.map (·.2)) := by
    intro α picked
    exact List.forall₂_map_right_iff.2 (List.forall₂_same.2 fun _ _ => rfl)
  refine ⟨?_, ?_, ?_, ?_⟩
  · refine hof.forall₂_pick Parts.isKind_source (hself _) fun hread hpart hs => ?_
    rw [Parts.source?_eq_some.1 hpart] at hread
    exact hs ▸ hread
  · refine hof.forall₂_pick Parts.isKind_feature (hself _) fun hread hpart hf => ?_
    rw [Parts.feature?_eq_some.1 hpart] at hread
    exact hf ▸ hread
  · refine hof.forall₂_pick Parts.isKind_anchor
      (forall₂_of_collect (f := fun e => parts.linkAnchor e.1 e.2.1 e.2.2) hanchors rfl
        fun _ _ => rfl) fun hread hpart ha => ?_
    rw [Parts.anchor?_eq_some.1 hpart] at hread
    exact ⟨_, _, hread, hof.linkedFrom_of_linkAnchor ha⟩
  · refine hof.forall₂_pick Parts.isKind_derived
      (forall₂_of_collect (f := fun e => parts.linkDerived e.1 e.2) hderived rfl
        fun _ _ => rfl) fun hread hpart hf => ?_
    rw [Parts.derived?_eq_some.1 hpart] at hread
    exact ⟨_, hread, hof.linkedFrom_of_linkDerived hread.inputs_eq_nil hf⟩

theorem linkedFrom_of_ofPayload (h : ofPayload p = .ok g) : g.LinkedFrom p := by
  rw [ofPayload_eq_links] at h
  obtain ⟨g', hlinks, h⟩ := bind_eq_ok.1 h
  obtain ⟨order, -, h⟩ := bind_eq_ok.1 h
  obtain rfl := return_eq_ok.1 h
  exact linkedFrom_of_links hlinks

namespace LinkedFrom

variable (h : g.LinkedFrom p)
include h

theorem lt_of_sourceKey? {id : EntityId} {k : SourceKey} (hk : p.sourceKey? id = some k) :
    k.index < g.sources.length := by
  obtain ⟨i, hi, rfl⟩ := Option.map_eq_some_iff.1 hk
  exact h.sources.length_eq ▸ p.lt_of_place? hi

theorem lt_of_featureKey? {id : EntityId} {k : FeatureKey} (hk : p.featureKey? id = some k) :
    k.index < g.features.length := by
  obtain ⟨i, hi, rfl⟩ := Option.map_eq_some_iff.1 hk
  exact h.features.length_eq ▸ p.lt_of_place? hi

theorem lt_of_derivedKey? {id : EntityId} {k : DerivedKey} (hk : p.derivedKey? id = some k) :
    k.index < g.derived.length := by
  obtain ⟨i, hi, rfl⟩ := Option.map_eq_some_iff.1 hk
  exact h.derived.length_eq ▸ p.lt_of_place? hi

theorem closed : g.Closed := by
  have hanchor : ∀ a ∈ g.anchors, ∃ r d, a.LinkedFrom p r d := by
    intro a ha
    obtain ⟨e, -, r, d, -, hlinked⟩ := exists_of_forall₂ h.anchors ha
    exact ⟨r, d, hlinked⟩
  have hderived : ∀ f ∈ g.derived, ∃ d, f.LinkedFrom p d := by
    intro f hf
    obtain ⟨e, -, d, -, hlinked⟩ := exists_of_forall₂ h.derived hf
    exact ⟨d, hlinked⟩
  refine ⟨fun a ha => ?_, fun a ha k hk => ?_, fun f hf k hk => ?_, fun f hf k hk => ?_⟩
  · obtain ⟨r, d, hlinked⟩ := hanchor a ha
    exact h.lt_of_sourceKey? hlinked.source
  · obtain ⟨r, d, hlinked⟩ := hanchor a ha
    obtain ⟨id, hkey⟩ := hlinked.exists_id hk
    exact h.lt_of_featureKey? hkey
  · obtain ⟨d, hlinked⟩ := hderived f hf
    obtain ⟨id, -, hkey⟩ := hlinked.exists_id_of_anchored hk
    exact h.lt_of_featureKey? hkey
  · obtain ⟨d, hlinked⟩ := hderived f hf
    obtain ⟨id, -, hkey⟩ := hlinked.exists_id_of_derived hk
    exact h.lt_of_derivedKey? hkey

end LinkedFrom

/-- A project that is read as a graph is linked exactly. The graph has one entity for each of the
project, in the order of ids, and every reference in it is the key of the id that is listed there.
The key of an id is that of what the entity listed under it has been read as, so an id is the same
key wherever it is referred to. All keys are those of entities of the graph, and no derived feature
consumes itself. The relations are kept as they are and decide nothing else: with other relations
the graph is the same but for these. -/
theorem ofPayload_links_exactly (h : ofPayload p = .ok g) :
    g.LinkedFrom p ∧
    (∀ id k, p.sourceKey? id = some k → ∃ e, p.entities.get? id.text = some e ∧
      (Part.source (g.source k)).ReadFrom id.text e) ∧
    (∀ id k, p.featureKey? id = some k → ∃ e, p.entities.get? id.text = some e ∧
      (Part.feature (g.feature k)).ReadFrom id.text e) ∧
    (∀ id k, p.derivedKey? id = some k → ∃ e, p.entities.get? id.text = some e ∧
      ∃ d, (Part.derived d).ReadFrom id.text e ∧ (g.derivedFeature k).LinkedFrom p d) ∧
    g.Closed ∧ ¬g.IsCyclic ∧ g.relations = p.relations ∧
    ∀ relations, ofPayload { p with relations } = .ok { g with relations } := by
  have hlinked := linkedFrom_of_ofPayload h
  obtain ⟨parts, hparts, hanchors, hderived, hsources, hfeatures, hrelations, order, horder⟩ :=
    ofPayload_eq_ok_iff.1 h
  refine ⟨hlinked, fun id k hk => ?_, fun id k hk => ?_, fun id k hk => ?_, hlinked.closed,
    not_isCyclic_of_order horder, hrelations, fun relations => ?_⟩
  · obtain ⟨i, hi, rfl⟩ := Option.map_eq_some_iff.1 hk
    exact ProjectPayload.exists_of_place? hlinked.sources hi default
  · obtain ⟨i, hi, rfl⟩ := Option.map_eq_some_iff.1 hk
    exact ProjectPayload.exists_of_place? hlinked.features hi default
  · obtain ⟨i, hi, rfl⟩ := Option.map_eq_some_iff.1 hk
    exact ProjectPayload.exists_of_place? hlinked.derived hi default
  · have hdependencies : ({ g with relations } : Graph).dependencies = g.dependencies := rfl
    exact ofPayload_eq_ok_iff.2 ⟨parts, hparts, hanchors, hderived, hsources, hfeatures, rfl, order,
      order_congr hdependencies horder⟩

end Graph

/-! ### A project with shared entities -/

/-- An entity that is called after its id. -/
def Entity.plain (id : String) (type : EntityType) (attributes : Bag) : Entity :=
  ⟨⟨id⟩, type, ("name", .str id) :: ("qualifiedName", .str id) :: attributes⟩

/-- Two anchors share a source and a feature, one of them lists another feature twice, and a derived
feature consumes one that is listed after it. -/
def ProjectPayload.shared : ProjectPayload where
  entities :=
    let type := (FeatureType.scalar .int32).toJson
    .ofList
      [ ("a", .plain "a" .anchor
          [("source", .str "s"), ("features", Json.ofTexts ["f", "e", "f"])]),
        ("b", .plain "b" .anchor [("source", .str "s"), ("features", Json.ofTexts ["e"])]),
        ("d", .plain "d" .derivedFeature
          [ ("type", type), ("inputAnchorFeatures", Json.ofTexts ["f"]),
            ("inputDerivedFeatures", Json.ofTexts ["z"]) ]),
        ("e", .plain "e" .anchorFeature [("type", type)]),
        ("f", .plain "f" .anchorFeature [("type", type)]),
        ("p", .plain "p" .project []),
        ("s", .plain "s" .source [("type", .str "hdfs"), ("path", .str "data")]),
        ("z", .plain "z" .derivedFeature
          [("type", type), ("inputAnchorFeatures", Json.ofTexts ["e", "f", "e"])]) ]
  relations := [⟨⟨"a"⟩, ⟨"s"⟩, .consumes⟩]

namespace Graph

/-- Whether there is an order depends on the derived inputs alone. -/
theorem order_of_derivedInputs {g g' : Graph} {order : List DerivedKey}
    (h : g'.derived.map (·.derivedInputs) = g.derived.map (·.derivedInputs))
    (horder : g.order g.derivedKeys = .ok order) : g'.order g'.derivedKeys = .ok order := by
  have hdependencies : g'.dependencies = g.dependencies := by
    have hget (g : Graph) (k : DerivedKey) :
        g.dependencies k = (g.derived.map (·.derivedInputs)).getD k.index [] :=
      (List.getD_map ..).symm
    funext k
    rw [hget, hget, h]
  have hkeys : g'.derivedKeys = g.derivedKeys := by
    have hlength := congrArg List.length h
    rw [List.length_map, List.length_map] at hlength
    rw [derivedKeys, hlength, derivedKeys]
  exact hkeys ▸ order_congr hdependencies horder

/-- A project is accepted if its graph has the derived inputs of a graph that has an order. -/
theorem exists_ofPayload {p : ProjectPayload} {g : Graph} {order : List DerivedKey}
    (hlinks : (links p).map (fun g => g.derived.map (·.derivedInputs)) =
      .ok (g.derived.map (·.derivedInputs)))
    (horder : g.order g.derivedKeys = .ok order) : ∃ g, ofPayload p = .ok g := by
  obtain ⟨g', hlinks, hinputs⟩ := map_eq_ok.1 hlinks
  refine ⟨g', ?_⟩
  rw [ofPayload_of_links hlinks, order_of_derivedInputs hinputs horder]
  rfl

/-- Two derived features of which the first consumes the second. -/
def forward : Graph :=
  { empty with derived := [{ (default : DerivedFeature) with derivedInputs := [⟨1⟩] }, default] }

theorem order_forward : forward.order forward.derivedKeys = .ok [⟨1⟩, ⟨0⟩] := by
  cbv

-- The kernel does not run the walk over the derived features, so it stops at their inputs here.
theorem exists_ofPayload_shared : ∃ g, ofPayload .shared = .ok g :=
  exists_ofPayload (by decide +kernel) order_forward

theorem shared_links_exactly : ∃ g, ofPayload .shared = .ok g ∧ g.LinkedFrom .shared ∧ g.Closed ∧
    ¬g.IsCyclic ∧ g.relations = ProjectPayload.shared.relations := by
  obtain ⟨g, h⟩ := exists_ofPayload_shared
  obtain ⟨hlinked, -, -, -, hclosed, hacyclic, hrelations, -⟩ := ofPayload_links_exactly h
  exact ⟨g, h, hlinked, hclosed, hacyclic, hrelations⟩

end Graph

end FeatureCatalog
