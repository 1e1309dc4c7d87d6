import FeatureCatalog.Proofs.Graph.Linked
import Mathlib.Logic.Relation

/-! Which projects are read as a graph. Where every entity can be read on its own, a project is
refused for two reasons only: a reference that leads to no entity of the type it is meant for, and a
circle of derived features. Both are said of ids here, as a project has them, and not of the keys
that linking makes of ids. -/

namespace FeatureCatalog

namespace Part

/-- The part refers to an entity of the type by its id. -/
inductive Refers : Part → EntityType → EntityId → Prop
  | source {r a} : Refers (.anchor r a) .source a.source.id
  | feature {r a ref} : ref ∈ a.features → Refers (.anchor r a) .anchorFeature ref.id
  | anchored {d id} : id ∈ d.anchored → Refers (.derived d) .anchorFeature id
  | derived {d id} : id ∈ d.derived → Refers (.derived d) .derivedFeature id

end Part

namespace ProjectPayload

variable {p : ProjectPayload} {type : EntityType} {id user missing : EntityId}

/-- What is listed under `user` refers to an entity of the type by its id. -/
def Refers (p : ProjectPayload) (user : EntityId) (type : EntityType) (id : EntityId) : Prop :=
  ∃ (e : Entity) (part : Part), p.entities.get? user.text = some e ∧
    part.ReadFrom user.text e ∧ part.Refers type id

/-- An entity of the type is listed under the id. -/
def Lists (p : ProjectPayload) (type : EntityType) (id : EntityId) : Prop :=
  ∃ e, p.entities.get? id.text = some e ∧ e.type = type

/-- What is listed under `user` refers to an entity that is missing, or that is not of the type that
it is meant to be of. -/
def Dangles (p : ProjectPayload) (user missing : EntityId) : Prop :=
  ∃ type, p.Refers user type missing ∧ ¬p.Lists type missing

/-- A derived feature consumes itself, directly or through others. -/
def IsCircular (p : ProjectPayload) : Prop :=
  ∃ id, Relation.TransGen (fun input user => p.Refers user .derivedFeature input) id id

/-- Every entity can be read on its own. -/
def IsReadable (p : ProjectPayload) : Prop :=
  ∀ e ∈ p.entities.entries, ∃ part : Part, part.ReadFrom e.1 e.2

theorem place?_isSome : (p.place? type id).isSome ↔ p.Lists type id := by
  constructor
  · intro h
    obtain ⟨i, hi⟩ := Option.isSome_iff_exists.1 h
    obtain ⟨e, he, hget⟩ := getElem_of_place? hi
    have hmem : (id.text, e) ∈ p.listed type := List.mem_of_getElem? hget
    exact ⟨e, he, by simpa using List.of_mem_filter hmem⟩
  · rintro ⟨e, he, htype⟩
    have hmem : (id.text, e) ∈ p.listed type :=
      List.mem_filter.2 ⟨Dict.mem_entries.2 he, by simpa using htype⟩
    unfold place?
    rw [List.findIdx?_isSome, List.any_eq_true]
    exact ⟨_, hmem, beq_self_eq_true _⟩

/-- An entity that is listed has a place among those of its type, and what stands there stands for
it. -/
theorem exists_at_place {α : Type} {R : String × Entity → α → Prop} {as : List α}
    (has : List.Forall₂ R (p.listed type) as) {key : String} {e : Entity}
    (he : p.entities.get? key = some e) (htype : e.type = type) (default : α) :
    ∃ i, p.place? type ⟨key⟩ = some i ∧ R (key, e) (as.getD i default) := by
  obtain ⟨i, hi⟩ := Option.isSome_iff_exists.1 (place?_isSome.2 ⟨e, he, htype⟩)
  obtain ⟨e', he', hR⟩ := exists_of_place? has hi default
  obtain rfl := Option.some.inj (he.symm.trans he')
  exact ⟨i, hi, hR⟩

end ProjectPayload

/-! ### References that lead nowhere -/

namespace Parts

variable {α : Type} {kind? : Part → Option α} {type : EntityType} {parts : Parts}
  {p : ProjectPayload} {user : String} {err : CatalogError}

theorem AreOf.resolve_eq_error (h : parts.AreOf p.entities.entries) (hkind : IsKind kind? type)
    {id : EntityId} (herr : parts.resolve kind? user id = .error err) :
    err = .danglingReference id ⟨user⟩ ∧ ¬p.Lists type id := by
  unfold resolve at herr
  rw [h.indexOf? hkind] at herr
  split at herr
  · cases herr
  · rename_i hnone
    refine ⟨(Except.error.inj herr).symm, fun hlists => ?_⟩
    simp [← ProjectPayload.place?_isSome, hnone] at hlists

theorem AreOf.resolveAll_eq_error (h : parts.AreOf p.entities.entries)
    (hkind : IsKind kind? type) {ids : List EntityId}
    (herr : parts.resolveAll kind? user ids = .error err) :
    ∃ id ∈ ids, err = .danglingReference id ⟨user⟩ ∧ ¬p.Lists type id := by
  obtain ⟨id, hid, herr⟩ := exists_of_collect_error herr rfl fun _ _ => rfl
  exact ⟨id, hid, h.resolve_eq_error hkind herr⟩

/-- What cannot be linked refers to something that is missing, which the error names. -/
theorem AreOf.dangles_of_linkAnchor (h : parts.AreOf p.entities.entries) {r : Registration}
    {d : Anchor.Detached} (herr : parts.linkAnchor user r d = .error err) :
    ∃ type missing, (Part.anchor r d).Refers type missing ∧ ¬p.Lists type missing ∧
      err = .danglingReference missing ⟨user⟩ := by
  rcases bind_eq_error.1 herr with herr | ⟨_, -, herr⟩
  · obtain ⟨rfl, hlists⟩ := h.resolve_eq_error isKind_source herr
    exact ⟨_, _, .source, hlists, rfl⟩
  · rcases bind_eq_error.1 herr with herr | ⟨_, -, herr⟩
    · obtain ⟨id, hid, rfl, hlists⟩ := h.resolveAll_eq_error isKind_feature herr
      obtain ⟨ref, href, rfl⟩ := List.mem_map.1 hid
      exact ⟨_, _, .feature href, hlists, rfl⟩
    · exact absurd herr return_ne_error

theorem AreOf.dangles_of_linkDerived (h : parts.AreOf p.entities.entries)
    {d : DerivedFeature.Detached} (herr : parts.linkDerived user d = .error err) :
    ∃ type missing, (Part.derived d).Refers type missing ∧ ¬p.Lists type missing ∧
      err = .danglingReference missing ⟨user⟩ := by
  rcases bind_eq_error.1 herr with herr | ⟨_, -, herr⟩
  · obtain ⟨id, hid, rfl, hlists⟩ := h.resolveAll_eq_error isKind_feature herr
    exact ⟨_, _, .anchored hid, hlists, rfl⟩
  · rcases bind_eq_error.1 herr with herr | ⟨_, -, herr⟩
    · obtain ⟨id, hid, rfl, hlists⟩ := h.resolveAll_eq_error isKind_derived herr
      exact ⟨_, _, .derived hid, hlists, rfl⟩
    · exact absurd herr return_ne_error

/-- What cannot be linked is listed, so the project dangles. -/
theorem AreOf.dangles_of_mem_pick (h : parts.AreOf p.entities.entries) (hkind : IsKind kind? type)
    {part : α → Part} (hpart : ∀ {part' a}, kind? part' = some a → part' = part a)
    {q : String × α} (hq : q ∈ parts.pick kind?)
    (hdangles : ∃ type missing, (part q.2).Refers type missing ∧ ¬p.Lists type missing ∧
      err = .danglingReference missing ⟨q.1⟩) :
    ∃ user missing, p.Dangles user missing ∧ err = .danglingReference missing user := by
  obtain ⟨⟨id, e⟩, he, rfl, part', hread, hkind'⟩ := exists_of_forall₂ (h.pick hkind) hq
  obtain ⟨type, missing, hrefers, hlists, rfl⟩ := hdangles
  obtain rfl := hpart hkind'
  have he' := Dict.mem_entries.1 (List.mem_of_mem_filter he)
  exact ⟨⟨q.1⟩, missing, ⟨type, ⟨e, _, he', hread, hrefers⟩, hlists⟩, rfl⟩

end Parts

namespace Graph

variable {g : Graph} {p : ProjectPayload}

/-- Entities that can be read can be linked, unless one of them refers to something that is
missing. -/
theorem dangles_of_links (h : p.IsReadable) {err : CatalogError} (hlinks : links p = .error err) :
    ∃ user missing, p.Dangles user missing ∧ err = .danglingReference missing user := by
  rcases bind_eq_error.1 hlinks with herr | ⟨parts, hparts, hlinks⟩
  · -- no entity can be at fault
    obtain ⟨e, he, herr⟩ := Parts.exists_of_ofEntities_error herr
    obtain ⟨part, hread⟩ := h e he
    exact absurd (herr.symm.trans hread.ofEntity) (by simp)
  have hof := Parts.areOf_of_ofEntities hparts
  rcases bind_eq_error.1 hlinks with herr | ⟨anchors, -, hlinks⟩
  · obtain ⟨q, hq, herr⟩ := exists_of_collect_error
      (f := fun e => parts.linkAnchor e.1 e.2.1 e.2.2) herr rfl fun _ _ => rfl
    exact hof.dangles_of_mem_pick Parts.isKind_anchor Parts.anchor?_eq_some.1 hq
      (hof.dangles_of_linkAnchor herr)
  rcases bind_eq_error.1 hlinks with herr | ⟨derived, -, hlinks⟩
  · obtain ⟨q, hq, herr⟩ := exists_of_collect_error
      (f := fun e => parts.linkDerived e.1 e.2) herr rfl fun _ _ => rfl
    exact hof.dangles_of_mem_pick Parts.isKind_derived Parts.derived?_eq_some.1 hq
      (hof.dangles_of_linkDerived herr)
  · exact absurd hlinks return_ne_error

end Graph

/-! ### References that have been linked -/

theorem ProjectPayload.lists_of_map_place? {p : ProjectPayload} {type : EntityType} {id : EntityId}
    {κ : Type} {key : Nat → κ} {k : κ} (h : (p.place? type id).map key = some k) :
    p.Lists type id := by
  obtain ⟨i, hi, -⟩ := Option.map_eq_some_iff.1 h
  exact place?_isSome.1 (Option.isSome_iff_exists.2 ⟨i, hi⟩)

namespace DerivedFeature.LinkedFrom

variable {p : ProjectPayload} {d : DerivedFeature.Detached} {f : DerivedFeature} {id : EntityId}
  (h : f.LinkedFrom p d)
include h

theorem exists_featureKey (hid : id ∈ d.anchored) :
    ∃ k ∈ f.anchoredInputs, p.featureKey? id = some k := by
  have hmem : (p.featureKey? id).map FeatureRef.anchored ∈ f.inputs.map some :=
    h.inputs ▸ List.mem_append_left _ (List.mem_map_of_mem hid)
  obtain ⟨input, hinput, hkey⟩ := List.mem_map.1 hmem
  obtain ⟨k, hk, rfl⟩ := Option.map_eq_some_iff.1 hkey.symm
  exact ⟨k, by simpa [DerivedFeature.inputs] using hinput, hk⟩

theorem exists_derivedKey (hid : id ∈ d.derived) :
    ∃ k ∈ f.derivedInputs, p.derivedKey? id = some k := by
  have hmem : (p.derivedKey? id).map FeatureRef.derived ∈ f.inputs.map some :=
    h.inputs ▸ List.mem_append_right _ (List.mem_map_of_mem hid)
  obtain ⟨input, hinput, hkey⟩ := List.mem_map.1 hmem
  obtain ⟨k, hk, rfl⟩ := Option.map_eq_some_iff.1 hkey.symm
  exact ⟨k, by simpa [DerivedFeature.inputs] using hinput, hk⟩

end DerivedFeature.LinkedFrom

namespace Graph.LinkedFrom

variable {g : Graph} {p : ProjectPayload} {user : String} {e : Entity} (h : g.LinkedFrom p)
include h

theorem exists_anchor {r : Registration} {d : Anchor.Detached}
    (he : p.entities.get? user = some e) (hread : (Part.anchor r d).ReadFrom user e) :
    ∃ k, p.anchorKey? ⟨user⟩ = some k ∧ (g.anchor k).LinkedFrom p r d := by
  have htype : e.type = .anchor := by
    cases hread
    assumption
  obtain ⟨i, hi, r', d', hread', hlinked⟩ :=
    ProjectPayload.exists_at_place h.anchors he htype default
  obtain ⟨rfl, rfl⟩ := Part.anchor.inj (hread.unique hread')
  exact ⟨⟨i⟩, by rw [ProjectPayload.anchorKey?, hi, Option.map_some], hlinked⟩

theorem exists_derivedFeature {d : DerivedFeature.Detached}
    (he : p.entities.get? user = some e) (hread : (Part.derived d).ReadFrom user e) :
    ∃ k, p.derivedKey? ⟨user⟩ = some k ∧ (g.derivedFeature k).LinkedFrom p d := by
  have htype : e.type = .derivedFeature := by
    cases hread
    assumption
  obtain ⟨i, hi, d', hread', hlinked⟩ :=
    ProjectPayload.exists_at_place h.derived he htype default
  obtain rfl := Part.derived.inj (hread.unique hread')
  exact ⟨⟨i⟩, by rw [ProjectPayload.derivedKey?, hi, Option.map_some], hlinked⟩

/-- In a project that has been linked no reference leads nowhere. -/
theorem lists_of_refers {user id : EntityId} {type : EntityType} (hrefers : p.Refers user type id) :
    p.Lists type id := by
  obtain ⟨e, part, he, hread, hrefers⟩ := hrefers
  cases hrefers with
  | source =>
    obtain ⟨a, -, hlinked⟩ := h.exists_anchor he hread
    exact ProjectPayload.lists_of_map_place? hlinked.source
  | feature href =>
    obtain ⟨a, -, hlinked⟩ := h.exists_anchor he hread
    have hmem := hlinked.features ▸ List.mem_map_of_mem href
    obtain ⟨k, -, hk⟩ := List.mem_map.1 hmem
    exact ProjectPayload.lists_of_map_place? hk.symm
  | anchored hid =>
    obtain ⟨k, -, hlinked⟩ := h.exists_derivedFeature he hread
    obtain ⟨_, -, hkey⟩ := hlinked.exists_featureKey hid
    exact ProjectPayload.lists_of_map_place? hkey
  | derived hid =>
    obtain ⟨k, -, hlinked⟩ := h.exists_derivedFeature he hread
    obtain ⟨_, -, hkey⟩ := hlinked.exists_derivedKey hid
    exact ProjectPayload.lists_of_map_place? hkey

end Graph.LinkedFrom

/-! ### Circles -/

/-- The id of the derived feature with the given key. -/
def ProjectPayload.derivedId (p : ProjectPayload) (k : DerivedKey) : EntityId :=
  ⟨(((p.listed .derivedFeature)[k.index]?).map (·.1)).getD ""⟩

theorem ProjectPayload.derivedId_of_derivedKey? {p : ProjectPayload} {id : EntityId}
    {k : DerivedKey} (h : p.derivedKey? id = some k) : p.derivedId k = id := by
  obtain ⟨i, hi, rfl⟩ := Option.map_eq_some_iff.1 h
  obtain ⟨e, -, hget⟩ := getElem_of_place? hi
  simp [derivedId, hget]

namespace Graph

variable {g : Graph} {p : ProjectPayload}

namespace LinkedFrom

variable (h : g.LinkedFrom p)
include h

/-- Derived features consume each other in the graph as their ids refer to each other. -/
theorem refers_of_isInput {u k : DerivedKey} (hinput : g.IsInput u k) :
    p.Refers (p.derivedId k) .derivedFeature (p.derivedId u) := by
  have hlt : k.index < g.derived.length := mem_derivedKeys.1 (mem_derivedKeys_of_isInput hinput)
  have hlt' : k.index < (p.listed .derivedFeature).length := h.derived.length_eq ▸ hlt
  obtain ⟨d, hread, hlinked⟩ := h.derived.get hlt' hlt
  have hlinked : (g.derivedFeature k).LinkedFrom p d := by
    rw [derivedFeature, List.getD_eq_getElem _ _ hlt]
    exact hlinked
  have hid : p.derivedId k = ⟨((p.listed .derivedFeature)[k.index]).1⟩ := by
    simp [ProjectPayload.derivedId, List.getElem?_eq_getElem hlt']
  have hmem : (p.listed .derivedFeature)[k.index] ∈ p.entities.entries :=
    List.mem_of_mem_filter (List.getElem_mem hlt')
  obtain ⟨id, hid', hkey⟩ := hlinked.exists_id_of_derived hinput
  rw [hid, ProjectPayload.derivedId_of_derivedKey? hkey]
  exact ⟨_, _, Dict.mem_entries.1 hmem, hread, .derived hid'⟩

theorem isInput_of_refers {user id : EntityId} (hrefers : p.Refers user .derivedFeature id) :
    ∃ k u, p.derivedKey? user = some k ∧ p.derivedKey? id = some u ∧ g.IsInput u k := by
  obtain ⟨e, part, he, hread, hrefers⟩ := hrefers
  cases hrefers with
  | derived hid =>
    obtain ⟨k, hk, hlinked⟩ := h.exists_derivedFeature he hread
    obtain ⟨u, hu, hkey⟩ := hlinked.exists_derivedKey hid
    exact ⟨k, u, hk, hkey, hu⟩

theorem isCyclic_iff : g.IsCyclic ↔ p.IsCircular := by
  constructor
  · rintro ⟨k, hcycle⟩
    exact ⟨p.derivedId k, hcycle.lift p.derivedId fun _ _ hinput => h.refers_of_isInput hinput⟩
  · rintro ⟨id, hcycle⟩
    let key (id : EntityId) : DerivedKey := (p.derivedKey? id).getD default
    refine ⟨key id, hcycle.lift key fun input user hrefers => ?_⟩
    obtain ⟨k, u, hk, hu, hinput⟩ := h.isInput_of_refers hrefers
    simpa [Function.onFun, key, hk, hu] using hinput

end LinkedFrom

/-- A project is refused over a dangling reference, or over a circle, or read as a graph. -/
theorem ofPayload_cases (h : p.IsReadable) :
    (∃ user missing, p.Dangles user missing ∧
      ofPayload p = .error (.danglingReference missing user)) ∨
    (∀ user missing, ¬p.Dangles user missing) ∧
      ((p.IsCircular ∧ ∃ entry, ofPayload p = .error (.cyclicDependency entry)) ∨
        ¬p.IsCircular ∧ ∃ g, ofPayload p = .ok g) := by
  cases hlinks : links p with
  | error err =>
    obtain ⟨user, missing, hdangles, rfl⟩ := dangles_of_links h hlinks
    refine .inl ⟨user, missing, hdangles, ?_⟩
    rw [ofPayload_eq_links, hlinks]
    rfl
  | ok g =>
    have hlinked := linkedFrom_of_links hlinks
    refine .inr ⟨?_, ?_⟩
    · rintro user missing ⟨type, hrefers, hlists⟩
      exact hlists (hlinked.lists_of_refers hrefers)
    · rw [ofPayload_of_links hlinks, ← hlinked.isCyclic_iff]
      cases horder : g.order g.derivedKeys with
      | ok keys => exact .inr ⟨not_isCyclic_of_order horder, g, rfl⟩
      | error err =>
        obtain ⟨k, -, hcycle, rfl⟩ := order_eq_error horder
        exact .inl ⟨⟨k, hcycle⟩, _, rfl⟩

/-- Of the projects whose entities can each be read on their own, exactly the consistent ones are
read as a graph. A project is refused over a dangling reference exactly if something in it refers to
an entity that is missing or of another type than it is meant to be of, and the error names the two.
Of the others, exactly those with a circle of derived features are refused over that, and the rest
is accepted. -/
theorem ofPayload_accepts_consistent (h : p.IsReadable) :
    ((∃ missing user, ofPayload p = .error (.danglingReference missing user)) ↔
      ∃ user missing, p.Dangles user missing) ∧
    (∀ missing user, ofPayload p = .error (.danglingReference missing user) →
      p.Dangles user missing) ∧
    ((∃ entry, ofPayload p = .error (.cyclicDependency entry)) ↔
      (∀ user missing, ¬p.Dangles user missing) ∧ p.IsCircular) ∧
    ((∃ g, ofPayload p = .ok g) ↔
      (∀ user missing, ¬p.Dangles user missing) ∧ ¬p.IsCircular) := by
  rcases ofPayload_cases h with
    ⟨user, missing, hdangles, heq⟩ | ⟨hnone, ⟨hcircular, entry, heq⟩ | ⟨hcircular, g, heq⟩⟩
  · have hsome : ∃ user missing, p.Dangles user missing := ⟨user, missing, hdangles⟩
    have hnot : ¬∀ user missing, ¬p.Dangles user missing := fun hnone => hnone user missing hdangles
    refine ⟨by simp [heq, hsome], fun missing' user' herr => ?_, by simp [heq, hnot],
      by simp [heq, hnot]⟩
    obtain ⟨rfl, rfl⟩ := CatalogError.danglingReference.inj (Except.error.inj (heq.symm.trans herr))
    exact hdangles
  · simp [heq, hnone, hcircular]
  · simp [heq, hnone, hcircular]

end Graph

/-! ### Two projects that are refused -/

namespace ProjectPayload

theorem isReadable_iff {p : ProjectPayload} :
    p.IsReadable ↔ ∀ e ∈ p.entities.entries, (Part.ofEntity e.1 e.2).isOk := by
  refine forall₂_congr fun e _ => ⟨fun ⟨part, hread⟩ => ?_, fun h => ?_⟩
  · rw [hread.ofEntity]
    rfl
  · cases hpart : Part.ofEntity e.1 e.2 with
    | ok part => exact ⟨part, Part.readFrom_of_ofEntity hpart⟩
    | error err =>
      rw [hpart] at h
      cases h

instance {p : ProjectPayload} : Decidable p.IsReadable :=
  decidable_of_iff _ isReadable_iff.symm

/-- An anchor that refers to one of its features as if that were a source. -/
def crossed : ProjectPayload where
  entities := .ofList
    [ ("a", .plain "a" .anchor [("source", .str "f"), ("features", Json.ofTexts ["f"])]),
      ("f", .plain "f" .anchorFeature [("type", (FeatureType.scalar .int32).toJson)]) ]
  relations := []

/-- A derived feature that consumes itself. -/
def selfish : Entity :=
  .plain "d" .derivedFeature
    [ ("type", (FeatureType.scalar .int32).toJson),
      ("inputDerivedFeatures", Json.ofTexts ["d"]) ]

/-- A project with nothing else in it. -/
def looped : ProjectPayload where
  entities := .ofList [("d", selfish)]
  relations := []

theorem exists_readFrom_selfish : ∃ d, (Part.derived d).ReadFrom "d" selfish ∧ d.anchored = [] ∧
    d.derived = [⟨"d"⟩] := by
  have hread : (Part.ofEntity "d" selfish).map
      (fun part => part.derived?.map fun d => (d.anchored, d.derived)) =
      .ok (some ([], [⟨"d"⟩])) := by
    decide +kernel
  obtain ⟨part, hpart, hkind⟩ := map_eq_ok.1 hread
  obtain ⟨d, hd, hids⟩ := Option.map_eq_some_iff.1 hkind
  obtain ⟨hanchored, hderived⟩ := Prod.mk.inj hids
  obtain rfl := Parts.derived?_eq_some.1 hd
  exact ⟨d, Part.readFrom_of_ofEntity hpart, hanchored, hderived⟩

theorem isCircular_looped : looped.IsCircular := by
  obtain ⟨d, hread, -, hderived⟩ := exists_readFrom_selfish
  have hrefers : looped.Refers ⟨"d"⟩ .derivedFeature ⟨"d"⟩ :=
    ⟨selfish, _, rfl, hread, .derived (hderived ▸ List.mem_singleton_self _)⟩
  exact ⟨⟨"d"⟩, .single hrefers⟩

theorem not_dangles_looped (user missing : EntityId) : ¬looped.Dangles user missing := by
  rintro ⟨type, ⟨e, part, he, hread, hrefers⟩, hlists⟩
  obtain ⟨d, hread', hanchored, hderived⟩ := exists_readFrom_selfish
  have hentry : (user.text, e) = ("d", selfish) :=
    List.mem_singleton.1 (Dict.mem_entries.2 he)
  obtain ⟨huser, rfl⟩ := Prod.mk.inj hentry
  rw [huser] at hread
  obtain rfl := hread.unique hread'
  cases hrefers with
  | anchored hid => simp [hanchored] at hid
  | derived hid =>
    obtain rfl : missing = ⟨"d"⟩ := by simpa [hderived] using hid
    exact hlists ⟨selfish, rfl, rfl⟩

end ProjectPayload

namespace Graph

/-- One project is refused over a reference, one over a circle, and one is accepted. -/
theorem crossed_looped_shared_accepts_consistent :
    ProjectPayload.crossed.IsReadable ∧ ProjectPayload.looped.IsReadable ∧
    ProjectPayload.shared.IsReadable ∧
    (ofPayload .crossed).map (fun _ => ()) = .error (.danglingReference ⟨"f"⟩ ⟨"a"⟩) ∧
    ProjectPayload.crossed.Dangles ⟨"a"⟩ ⟨"f"⟩ ∧
    (∃ entry, ofPayload .looped = .error (.cyclicDependency entry)) ∧
    (∃ g, ofPayload .shared = .ok g) ∧ ¬ProjectPayload.shared.IsCircular := by
  have hcrossed : ProjectPayload.crossed.IsReadable := by decide +kernel
  have hlooped : ProjectPayload.looped.IsReadable := by decide +kernel
  have hshared : ProjectPayload.shared.IsReadable := by decide +kernel
  have herr : (ofPayload .crossed).map (fun _ => ()) = .error (.danglingReference ⟨"f"⟩ ⟨"a"⟩) := by
    decide +kernel
  obtain ⟨-, hdangles, -, -⟩ := ofPayload_accepts_consistent hcrossed
  obtain ⟨-, -, hcycle, -⟩ := ofPayload_accepts_consistent hlooped
  obtain ⟨-, -, -, haccepted⟩ := ofPayload_accepts_consistent hshared
  exact ⟨hcrossed, hlooped, hshared, herr, hdangles _ _ (map_eq_error.1 herr),
    hcycle.2 ⟨ProjectPayload.not_dangles_looped, ProjectPayload.isCircular_looped⟩,
    exists_ofPayload_shared, (haccepted.1 exists_ofPayload_shared).2⟩

end Graph

end FeatureCatalog
