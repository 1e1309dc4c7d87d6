import FeatureCatalog.Proofs.Store.Names
import FeatureCatalog.Proofs.Store.Repeat

/-! Deletions. Whether an entity may go a registry reads off its relations, while what its absence
would hurt are the references in bags. As the relations mirror the bags, the two come to the same:
an entity is refused exactly while another one depends on it, and otherwise it goes without a
trace. -/

namespace FeatureCatalog

/-- The value without references to an entity, if it is a list. -/
def Json.without (value : Json) (id : EntityId) : Json :=
  match value with
  | .arr items => .arr (items.filter fun item => !item.same id.reference)
  | value => value

theorem Bag.get?_features_withoutFeature (attrs : Bag) (id : EntityId) :
    Entries.get? "features" (attrs.withoutFeature id) =
      (Entries.get? "features" attrs).map (·.without id) := by
  unfold withoutFeature
  split
  · rename_i items hitems
    rw [Entries.get?_insert_self, hitems]
    rfl
  · rename_i hother
    cases hget : Entries.get? "features" attrs with
    | none => rfl
    | some value =>
      cases value with
      | arr items => exact absurd hget (hother items)
      | _ => rfl

/-- The second entity is the first one without the references to `id` in its list of features, if it
has a list there, and is the same otherwise. -/
structure Stored.Loses (stored : Stored) (id : EntityId) (left : Stored) : Prop where
  project : left.project = stored.project
  guid : left.entity.guid = stored.entity.guid
  type : left.entity.type = stored.entity.type
  features : Entries.get? "features" left.entity.attributes =
    (Entries.get? "features" stored.entity.attributes).map (·.without id)
  others : ∀ k, k ≠ "features" →
    Entries.get? k left.entity.attributes = Entries.get? k stored.entity.attributes

theorem Stored.loses_withoutFeature (stored : Stored) (id : EntityId) :
    stored.Loses id (stored.withoutFeature id) :=
  ⟨rfl, rfl, rfl, Bag.get?_features_withoutFeature _ _, fun _ => Bag.get?_withoutFeature _ _⟩

/-- What the bag of the entity refers to, as its source, its features or its inputs, is not `id`. -/
def Entity.Avoids (e : Entity) (id : EntityId) : Prop :=
  match e.type with
  | .anchor =>
    (∃ source, e.attributes.Refers "source" source ∧ source ≠ id) ∧
      ∃ ids, e.attributes.Lists "features" ids ∧ id ∉ ids
  | .derivedFeature =>
    (∃ ids, e.attributes.Lists "inputAnchorFeatures" ids ∧ id ∉ ids) ∧
      ∃ ids, e.attributes.Lists "inputDerivedFeatures" ids ∧ id ∉ ids
  | _ => True

namespace Contents

variable {c : Contents} {id : EntityId}

/-- Another entity depends on `id`: it is stored in the project `id`, it is on the list of features
of the anchor `id`, or its bag names `id` as its source or as one of its inputs. -/
def IsNeeded (c : Contents) (id : EntityId) : Prop :=
  ∃ e stored, e ≠ id ∧ c.stored? e = some stored ∧
    (stored.project = id ∨ c.IsListed id e ∨ stored.entity.Reads id)

/-- The second contents are the first ones without `id`: the entity is gone, with all relations that
it was an end of, and with all references to it in lists of features. -/
structure Loses (c : Contents) (id : EntityId) (left : Contents) : Prop where
  gone : left.stored? id = none
  others : ∀ j, j ≠ id → Option.Rel (fun stored stored' => stored.Loses id stored')
    (c.stored? j) (left.stored? j)
  relations : left.relations = c.relations.filter fun r => r.source ≠ id ∧ r.target ≠ id

theorem loses_remove (c : Contents) (id : EntityId) : c.Loses id (c.remove id) where
  gone := by rw [stored?_remove, if_pos rfl]
  others j hj := by
    rw [stored?_remove, if_neg hj]
    cases c.stored? j with
    | none => exact .none
    | some stored => exact .some (stored.loses_withoutFeature id)
  relations := rfl

/-- Bags do not refer to what is not stored. -/
theorem Sound.avoids (hc : c.Sound) (hgone : c.stored? id = none) {j : EntityId} {stored : Stored}
    (hstored : c.stored? j = some stored) : stored.entity.Avoids id := by
  have hne : ∀ {type i}, c.Has stored.project type i → i ≠ id := by
    rintro type i ⟨s, hs, -⟩ rfl
    rw [hgone] at hs
    cases hs
  have hlinked := hc.linked hstored
  unfold Linked at hlinked
  unfold Entity.Avoids
  cases htype : stored.entity.type with
  | anchor =>
    rw [htype] at hlinked
    obtain ⟨⟨source, hsource, hhas⟩, ids, hids, -, hall⟩ := hlinked
    exact ⟨⟨source, hsource, hne hhas⟩, ids, hids, fun hmem => hne (hall id hmem) rfl⟩
  | derivedFeature =>
    rw [htype] at hlinked
    obtain ⟨⟨as, has, hasHas⟩, ds, hds, hdsHas⟩ := hlinked
    exact ⟨⟨as, has, fun hmem => hne (hasHas id hmem) rfl⟩, ds, hds,
      fun hmem => hne (hdsHas id hmem) rfl⟩
  | project | source | anchorFeature => trivial

/-- Nothing contains itself. -/
theorem Sound.ne_of_holds (hc : c.Sound) {o e : EntityId} (h : c.Holds o e) : e ≠ o := by
  rintro rfl
  obtain ⟨owner, stored, howner, hstored, htype, hne, -⟩ := hc.held h
  obtain rfl := Option.some.inj (howner.symm.trans hstored)
  revert htype hne
  cases owner.entity.type <;> simp [EntityType.owner]

/-- Nothing consumes itself. -/
theorem Sound.ne_of_consumes (hc : c.Sound) {a b : EntityId} (h : c.Consumes a b) : a ≠ b := by
  rintro rfl
  exact hc.founded.irrefl.irrefl a h

/-- A project contains something if anything else is stored in it: a feature is there with its
anchor. -/
theorem Sound.exists_holds (hc : c.Sound) {e : EntityId} {stored : Stored}
    (hstored : c.stored? e = some stored) (hne : e ≠ stored.project) :
    ∃ m, c.Holds stored.project m := by
  have hproject : stored.entity.type ≠ .project := fun htype =>
    hne (hc.project hstored htype).1.symm
  by_cases hfeature : stored.entity.type = .anchorFeature
  · obtain ⟨anchor, hanchor⟩ := hc.owned hstored hproject
    obtain ⟨owner, stored', howner, hstored', htype, -, hsame, -⟩ := hc.held hanchor
    obtain rfl := Option.some.inj (hstored.symm.trans hstored')
    rw [hfeature] at htype
    exact ⟨anchor, hsame ▸ .member howner (by rw [htype]; decide) (by rw [htype]; decide)⟩
  · exact ⟨e, .member hstored hproject hfeature⟩

/-- An entity is needed if it contains something or something consumes it. -/
theorem Sound.isNeeded_iff (hc : c.Sound) : c.IsNeeded id ↔ ¬c.Unneeded id := by
  constructor
  · rintro ⟨e, stored, hne, hstored, rfl | hlisted | hreads⟩ hn
    · obtain ⟨m, hm⟩ := hc.exists_holds hstored hne
      exact hn.holds m hm
    · exact hn.holds e (.listed hlisted)
    · exact hn.consumes e ⟨stored, hstored, hreads⟩
  · intro hn
    by_contra hnot
    refine hn ⟨fun e he => hnot ?_, fun a ha => hnot ?_⟩
    · -- What it contains is stored in it, if it is a project, or on its list.
      obtain ⟨-, stored, -, hstored, -⟩ := hc.held he
      refine ⟨e, stored, hc.ne_of_holds he, hstored, ?_⟩
      cases he with
      | member hstored' =>
        obtain rfl := Option.some.inj (hstored.symm.trans hstored')
        exact .inl rfl
      | listed hlisted => exact .inr (.inl hlisted)
    · have hne := hc.ne_of_consumes ha
      obtain ⟨stored, hstored, hreads⟩ := ha
      exact ⟨a, stored, hne, hstored, .inr (.inr hreads)⟩

/-- The relations show what depends on an entity, and nothing else. -/
theorem Sound.dependents_isEmpty_iff (hc : c.Sound) :
    (c.dependents id).isEmpty = true ↔ c.Unneeded id := by
  refine ⟨hc.unneeded, fun hn => ?_⟩
  rw [List.isEmpty_iff, dependents, List.filter_eq_nil_iff.2, List.filterMap_nil]
  rintro ⟨source, target, type⟩ hmem hshown
  obtain ⟨rfl, rfl | rfl⟩ : source = id ∧ (type = .contains ∨ type = .produces) := by
    simpa using hshown
  · exact hn.holds target (hc.contains.1 hmem)
  · exact hn.consumes target (hc.consumes.1 (hc.produces.1 hmem))

end Contents

namespace Store

variable {entropy : Entropy} {s : Store} {headers : Headers} {id : EntityId} {stored : Stored}
  {q : String}

/-- Deletions look up entities by their qualified names, and relations decide. -/
theorem delete_of_stored (hs : s.contents.Sound) (hauthorized : s.isAuthorized headers = true)
    (hstored : s.contents.stored? id = some stored)
    (hq : stored.entity.qualifiedName? = some q) :
    s.delete ["entity", q] headers =
      if (s.contents.dependents id).isEmpty then
        (.ok id.reference, { s with contents := s.contents.remove id })
      else
        (.error (.badRequest ("entity `" ++ q ++ "` has dependent entities")), s) := by
  obtain rfl := hs.guid hstored
  simp only [delete, hauthorized, if_true, hs.find?_of_stored hstored hq]

/-- In every registry that calls can lead to, the deletion of an entity is refused if another entity
depends on it, and then nothing changes. Otherwise the entity goes, its relations go and the others
stay as they are, in their order, lists of features lose it, and no bag refers to it any more. -/
theorem Reachable.deletion_is_exact (h : Reachable entropy s)
    (hauthorized : s.isAuthorized headers = true) (hstored : s.contents.stored? id = some stored)
    (hq : stored.entity.qualifiedName? = some q) :
    (s.contents.IsNeeded id → s.delete ["entity", q] headers =
      (.error (.badRequest ("entity `" ++ q ++ "` has dependent entities")), s)) ∧
    (¬s.contents.IsNeeded id → ∃ left,
      s.delete ["entity", q] headers = (.ok id.reference, { s with contents := left }) ∧
      s.contents.Loses id left ∧
      ∀ j stored', left.stored? j = some stored' → stored'.entity.Avoids id) := by
  have hs := h.sound
  rw [hs.isNeeded_iff, not_not, ← hs.dependents_isEmpty_iff,
    delete_of_stored hs hauthorized hstored hq]
  refine ⟨fun hdependents => if_neg hdependents, fun hempty => ⟨_, if_pos hempty, ?_⟩⟩
  have hloses := s.contents.loses_remove id
  have hleft := hs.remove (hs.unneeded hempty)
  exact ⟨hloses, fun j stored' => hleft.avoids hloses.gone⟩

theorem reachable_oneFeature : Reachable .counting oneFeature :=
  reachable_oneAnchor.create_counting 3 (by decide +kernel) (by decide +kernel) (by decide +kernel)

/-- An anchor is not deleted while it has a feature, and the feature is. -/
theorem oneFeature_deletion_is_exact :
    oneFeature.contents.IsNeeded (.ofBits 2) ∧
    oneFeature.delete ["entity", "p__a"] [] =
      (.error (.badRequest "entity `p__a` has dependent entities"), oneFeature) ∧
    ∃ left, oneFeature.delete ["entity", "p__a__f__g"] [] =
        (.ok (EntityId.ofBits 3).reference, { oneFeature with contents := left }) ∧
      oneFeature.contents.Loses (.ofBits 3) left := by
  have hchecks : (oneFeature.contents.stored? (.ofBits 2)).any
        (fun stored => stored.entity.qualifiedName? == some "p__a") = true ∧
      (oneFeature.contents.stored? (.ofBits 3)).any
        (fun stored => stored.entity.qualifiedName? == some "p__a__f__g") = true ∧
      (oneFeature.delete ["entity", "p__a"] []).1.isOk = false ∧
      (oneFeature.delete ["entity", "p__a__f__g"] []).1.isOk = true := by
    decide +kernel
  obtain ⟨hanchor, hfeature, hrefused, haccepted⟩ := hchecks
  obtain ⟨anchor, hstored, hq⟩ := (Option.any_eq_true _ _).1 hanchor
  obtain ⟨feature, hstored', hq'⟩ := (Option.any_eq_true _ _).1 hfeature
  have hauthorized : oneFeature.isAuthorized [] = true := rfl
  obtain ⟨hneeded, hunneeded⟩ := Reachable.deletion_is_exact reachable_oneFeature
    hauthorized hstored (beq_iff_eq.1 hq)
  obtain ⟨hneeded', hunneeded'⟩ := Reachable.deletion_is_exact reachable_oneFeature
    hauthorized hstored' (beq_iff_eq.1 hq')
  have hanchorNeeded : oneFeature.contents.IsNeeded (.ofBits 2) := by
    by_contra hnot
    obtain ⟨left, hleft, -⟩ := hunneeded hnot
    rw [hleft] at hrefused
    cases hrefused
  have hfeatureUnneeded : ¬oneFeature.contents.IsNeeded (.ofBits 3) := by
    intro hneed
    rw [hneeded' hneed] at haccepted
    cases haccepted
  obtain ⟨left, hleft, hloses, -⟩ := hunneeded' hfeatureUnneeded
  exact ⟨hanchorNeeded, hneeded hanchorNeeded, left, hleft, hloses⟩

end Store

end FeatureCatalog
