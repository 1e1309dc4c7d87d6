import FeatureCatalog.Graph.Link
import FeatureCatalog.Proofs.Dict
import FeatureCatalog.Proofs.Graph.Order

/-! Linking the parts of a project. Where every reference finds a part of the right kind, and no
derived feature consumes itself, the parts make a graph, and a key in it is the place of an id among
the parts of its kind. -/

namespace FeatureCatalog

namespace Parts

variable {α : Type} {kind? : Part → Option α} {parts : Parts}

theorem ofEntities_eq_ok {part : String → Entity → Part} {entries : List (String × Entity)}
    (h : ∀ e ∈ entries, Part.ofEntity e.1 e.2 = .ok (part e.1 e.2)) :
    Parts.ofEntities entries = .ok (entries.map fun e => (e.1, part e.1 e.2)) := by
  induction entries with
  | nil => rfl
  | cons e rest ih =>
    obtain ⟨hhead, hrest⟩ := List.forall_mem_cons.1 h
    rw [ofEntities, hhead, ih hrest]
    rfl

/-- No id is listed twice. -/
def Distinct (parts : Parts) : Prop := (parts.map (·.1)).Nodup

theorem mem_pick {id : String} {a : α} :
    (id, a) ∈ parts.pick kind? ↔ ∃ part, (id, part) ∈ parts ∧ kind? part = some a := by
  simp only [pick, List.mem_filterMap, Option.map_eq_some_iff, Prod.mk.injEq]
  constructor
  · rintro ⟨e, he, a, ha, rfl, rfl⟩
    exact ⟨e.2, he, ha⟩
  · rintro ⟨part, hmem, ha⟩
    exact ⟨_, hmem, a, ha, rfl, rfl⟩

theorem Distinct.pick (h : parts.Distinct) (kind? : Part → Option α) :
    ((parts.pick kind?).map (·.1)).Nodup := by
  induction parts with
  | nil => exact List.nodup_nil
  | cons e rest ih =>
    obtain ⟨hhead, hrest⟩ := List.nodup_cons.1 h
    have hcons : Parts.pick kind? (e :: rest) =
        ((kind? e.2).map fun a => (e.1, a)).toList ++ Parts.pick kind? rest := by
      unfold Parts.pick
      rw [List.filterMap_cons]
      cases kind? e.2 <;> rfl
    rw [hcons]
    cases kind? e.2 with
    | none => exact ih hrest
    | some a =>
      refine List.nodup_cons.2 ⟨fun hmem => hhead ?_, ih hrest⟩
      obtain ⟨f, hf, heq⟩ := List.mem_map.1 hmem
      obtain ⟨part, hpart, -⟩ := mem_pick.1 (show (f.1, f.2) ∈ Parts.pick kind? rest from hf)
      exact List.mem_map.2 ⟨_, hpart, heq⟩

theorem indexOf?_eq_some (h : parts.Distinct) {id : EntityId} {i : Nat} :
    parts.indexOf? kind? id = some i ↔ ∃ a, (parts.pick kind?)[i]? = some (id.text, a) := by
  unfold indexOf?
  rw [List.findIdx?_eq_some_iff_getElem]
  constructor
  · rintro ⟨hi, hkey, -⟩
    refine ⟨((parts.pick kind?)[i]).2, ?_⟩
    rw [List.getElem?_eq_getElem hi, ← beq_iff_eq.1 hkey]
  · rintro ⟨a, ha⟩
    obtain ⟨hi, hget⟩ := List.getElem?_eq_some_iff.1 ha
    refine ⟨hi, by simp [hget], fun j hj hkey => ?_⟩
    have hj' : j < ((parts.pick kind?).map (·.1)).length := by simp; omega
    have hi' : i < ((parts.pick kind?).map (·.1)).length := by simpa using hi
    have heq : ((parts.pick kind?).map (·.1))[j] = ((parts.pick kind?).map (·.1))[i] := by
      simpa [hget] using hkey
    exact absurd ((h.pick kind?).getElem_inj_iff.1 heq) (by omega)

/-- The id is that of a part of the kind. -/
def Lists (parts : Parts) (kind? : Part → Option α) (id : EntityId) : Prop :=
  ∃ a, (id.text, a) ∈ parts.pick kind?

/-- The place of an id among the parts of one kind, or zero. -/
def place (kind? : Part → Option α) (parts : Parts) (id : EntityId) : Nat :=
  (parts.indexOf? kind? id).getD 0

/-- At the place of an id stands the part with that id. -/
theorem getElem?_place (h : parts.Distinct) {id : EntityId} {a : α}
    (ha : (id.text, a) ∈ parts.pick kind?) :
    parts.indexOf? kind? id = some (parts.place kind? id) ∧
      (parts.pick kind?)[parts.place kind? id]? = some (id.text, a) := by
  obtain ⟨i, hi, hget⟩ := List.getElem_of_mem ha
  have hi' : (parts.pick kind?)[i]? = some (id.text, a) := by
    rw [List.getElem?_eq_getElem hi, hget]
  have hindex : parts.indexOf? kind? id = some i := (indexOf?_eq_some h).2 ⟨a, hi'⟩
  have hplace : parts.place kind? id = i := by
    rw [place, hindex, Option.getD_some]
  rw [hplace]
  exact ⟨hindex, hi'⟩

theorem resolve_eq_ok (h : parts.Distinct) {id : EntityId} (hid : parts.Lists kind? id)
    (user : String) : parts.resolve kind? user id = .ok (parts.place kind? id) := by
  obtain ⟨a, ha⟩ := hid
  unfold resolve
  rw [(getElem?_place h ha).1]

theorem resolveAll_eq_ok (h : parts.Distinct) {ids : List EntityId}
    (hids : ∀ id ∈ ids, parts.Lists kind? id) (user : String) :
    parts.resolveAll kind? user ids = .ok (ids.map (parts.place kind?)) := by
  induction ids with
  | nil => rfl
  | cons id rest ih =>
    obtain ⟨hhead, hrest⟩ := List.forall_mem_cons.1 hids
    rw [resolveAll, resolve_eq_ok h hhead, ih hrest]
    rfl

/-- Every reference finds a part of the right kind. -/
structure Linked (parts : Parts) : Prop where
  source : ∀ {id r a}, (id, Part.anchor r a) ∈ parts → parts.Lists Part.source? a.source.id
  features : ∀ {id r a}, (id, Part.anchor r a) ∈ parts →
    ∀ f ∈ a.features.map EntityRef.id, parts.Lists Part.feature? f
  anchored : ∀ {id d}, (id, Part.derived d) ∈ parts →
    ∀ f ∈ d.anchored, parts.Lists Part.feature? f
  derived : ∀ {id d}, (id, Part.derived d) ∈ parts →
    ∀ f ∈ d.derived, parts.Lists Part.derived? f

/-- An anchor with keys for the ids that it refers to. -/
def anchorOf (parts : Parts) (r : Registration) (a : Anchor.Detached) : Anchor where
  name := a.name
  source := ⟨parts.place Part.source? a.source.id⟩
  features := (a.features.map EntityRef.id).map fun f => ⟨parts.place Part.feature? f⟩
  tags := a.tags.getD .empty
  registration := some r

/-- A derived feature with keys for the ids that it refers to. -/
def derivedOf (parts : Parts) (d : DerivedFeature.Detached) : DerivedFeature :=
  { d.feature with
    anchoredInputs := d.anchored.map fun f => ⟨parts.place Part.feature? f⟩
    derivedInputs := d.derived.map fun f => ⟨parts.place Part.derived? f⟩ }

theorem anchor?_eq_some {part : Part} {r : Registration} {a : Anchor.Detached} :
    part.anchor? = some (r, a) ↔ part = .anchor r a := by
  cases part <;> simp [Part.anchor?]

theorem source?_eq_some {part : Part} {s : Source} :
    part.source? = some s ↔ part = .source s := by
  cases part <;> simp [Part.source?]

theorem feature?_eq_some {part : Part} {f : Feature} :
    part.feature? = some f ↔ part = .feature f := by
  cases part <;> simp [Part.feature?]

theorem derived?_eq_some {part : Part} {d : DerivedFeature.Detached} :
    part.derived? = some d ↔ part = .derived d := by
  cases part <;> simp [Part.derived?]

theorem linkAnchors_eq_ok (h : parts.Distinct) (hlinked : parts.Linked)
    {anchors : List (String × Registration × Anchor.Detached)}
    (hanchors : ∀ e ∈ anchors, (e.1, Part.anchor e.2.1 e.2.2) ∈ parts) :
    parts.linkAnchors anchors = .ok (anchors.map fun e => parts.anchorOf e.2.1 e.2.2) := by
  induction anchors with
  | nil => rfl
  | cons e rest ih =>
    obtain ⟨hhead, hrest⟩ := List.forall_mem_cons.1 hanchors
    have hanchor : parts.linkAnchor e.1 e.2.1 e.2.2 = .ok (parts.anchorOf e.2.1 e.2.2) := by
      unfold linkAnchor
      rw [resolve_eq_ok h (hlinked.source hhead), resolveAll_eq_ok h (hlinked.features hhead)]
      simp [anchorOf, bind, Except.bind, pure, Except.pure]
    rw [linkAnchors, hanchor, ih hrest]
    rfl

theorem linkDeriveds_eq_ok (h : parts.Distinct) (hlinked : parts.Linked)
    {deriveds : List (String × DerivedFeature.Detached)}
    (hderiveds : ∀ e ∈ deriveds, (e.1, Part.derived e.2) ∈ parts) :
    parts.linkDeriveds deriveds = .ok (deriveds.map fun e => parts.derivedOf e.2) := by
  induction deriveds with
  | nil => rfl
  | cons e rest ih =>
    obtain ⟨hhead, hrest⟩ := List.forall_mem_cons.1 hderiveds
    have hderived : parts.linkDerived e.1 e.2 = .ok (parts.derivedOf e.2) := by
      unfold linkDerived
      rw [resolveAll_eq_ok h (hlinked.anchored hhead), resolveAll_eq_ok h (hlinked.derived hhead)]
      simp [derivedOf, bind, Except.bind, pure, Except.pure]
    rw [linkDeriveds, hderived, ih hrest]
    rfl

end Parts

namespace Graph

/-- The graph that linked parts make. -/
def ofParts (parts : Parts) (relations : List Relation) : Graph where
  sources := (parts.pick Part.source?).map (·.2)
  anchors := (parts.pick Part.anchor?).map fun e => parts.anchorOf e.2.1 e.2.2
  features := (parts.pick Part.feature?).map (·.2)
  derived := (parts.pick Part.derived?).map fun e => parts.derivedOf e.2
  relations := relations

variable {parts : Parts}

/-- The id at the place of a key. -/
def idOf (parts : Parts) (k : DerivedKey) : EntityId :=
  ⟨(((parts.pick Part.derived?)[k.index]?).map (·.1)).getD ""⟩

/-- One key is an input of another only if its id is one of the other's ids. -/
theorem isInput_ofParts (h : parts.Distinct) (hlinked : parts.Linked) {relations : List Relation}
    {u k : DerivedKey} (hinput : (ofParts parts relations).IsInput u k) :
    ∃ d, ((idOf parts k).text, Part.derived d) ∈ parts ∧ idOf parts u ∈ d.derived := by
  unfold IsInput dependencies derivedFeature at hinput
  rw [List.getD_eq_getElem?_getD] at hinput
  simp only [ofParts, List.getElem?_map] at hinput
  cases hk : (parts.pick Part.derived?)[k.index]? with
  | none =>
    rw [hk] at hinput
    cases hinput
  | some e =>
    rw [hk] at hinput
    obtain ⟨f, hf, rfl⟩ := List.mem_map.1 hinput
    obtain ⟨part, hpart, hderived⟩ :=
      Parts.mem_pick.1 (show (e.1, e.2) ∈ parts.pick Part.derived? from List.mem_of_getElem? hk)
    rw [Parts.derived?_eq_some] at hderived
    subst hderived
    obtain ⟨a, ha⟩ := hlinked.derived hpart f hf
    have hplace := (Parts.getElem?_place h ha).2
    refine ⟨e.2, ?_, ?_⟩
    · simpa [idOf, hk] using hpart
    · simpa [idOf, hplace] using hf

/-- Parts that are linked make a graph if no derived feature consumes itself. -/
theorem ofPayload_eq_ok {payload : ProjectPayload} (part : String → Entity → Part)
    (hread : ∀ e ∈ payload.entities.entries, Part.ofEntity e.1 e.2 = .ok (part e.1 e.2))
    (hparts : parts = payload.entities.entries.map fun e => (e.1, part e.1 e.2))
    (hlinked : parts.Linked)
    (hfounded : WellFounded fun b a : EntityId =>
      ∃ d, (a.text, Part.derived d) ∈ parts ∧ b ∈ d.derived) :
    ofPayload payload = .ok (ofParts parts payload.relations) := by
  have hdistinct : parts.Distinct := by
    have hkeys : parts.map (·.1) = payload.entities.entries.map (·.1) := by
      rw [hparts, List.map_map]
      rfl
    rw [Parts.Distinct, hkeys]
    exact payload.entities.ordered.nodup_keys
  have hanchors : ∀ e ∈ parts.pick Part.anchor?, (e.1, Part.anchor e.2.1 e.2.2) ∈ parts := by
    intro e he
    obtain ⟨p, hp, hkind⟩ := Parts.mem_pick.1 (show (e.1, e.2) ∈ _ from he)
    rwa [Parts.anchor?_eq_some.1 hkind] at hp
  have hderived : ∀ e ∈ parts.pick Part.derived?, (e.1, Part.derived e.2) ∈ parts := by
    intro e he
    obtain ⟨p, hp, hkind⟩ := Parts.mem_pick.1 (show (e.1, e.2) ∈ _ from he)
    rwa [Parts.derived?_eq_some.1 hkind] at hp
  have hacyclic : WellFounded (ofParts parts payload.relations).IsInput :=
    Subrelation.wf (fun h => isInput_ofParts hdistinct hlinked h)
      (InvImage.wf (idOf parts) hfounded)
  obtain ⟨keys, hkeys⟩ := exists_order _ hacyclic (ofParts parts payload.relations).derivedKeys
  unfold ofPayload
  rw [Parts.ofEntities_eq_ok hread, ← hparts]
  simp only [bind, Except.bind, Parts.linkAnchors_eq_ok hdistinct hlinked hanchors,
    Parts.linkDeriveds_eq_ok hdistinct hlinked hderived]
  unfold ofParts at hkeys
  rw [hkeys]
  rfl

end Graph

end FeatureCatalog
