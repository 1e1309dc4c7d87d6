import FeatureCatalog.Proofs.Store.Apart
import FeatureCatalog.Proofs.Store.Conflict
import FeatureCatalog.Proofs.Store.Deletion

/-! Creations that are undone. A deletion that follows a creation finds the new entity by its name,
removes it together with what the creation has written elsewhere, and nothing else: not only what is
read is as it was before, but all that is stored. -/

namespace FeatureCatalog

/-! ### Lists of features -/

/-- What is the same as a reference is that reference. -/
theorem Json.same_reference {value : Json} {id : EntityId} :
    value.same id.reference = true ↔ value = id.reference := by
  constructor
  · intro h
    cases value with
    | obj entries =>
      match entries, h with
      | [(key, .str text)], h =>
        simpa [EntityId.reference, EntityId.toJson, same, sameEntries] using h
      | [(key, .null)], h | [(key, .bool _)], h | [(key, .num _)], h | [(key, .arr _)], h
      | [(key, .obj _)], h =>
        simp [EntityId.reference, EntityId.toJson, same, sameEntries] at h
      | [], h | _ :: _ :: _, h => simp [EntityId.reference, same, sameEntries] at h
    | _ => simp [EntityId.reference, same] at h
  · rintro rfl
    exact (EntityId.same_reference id id).2 rfl

namespace Bag

variable {attrs : Bag} {id : EntityId}

/-- The list of features in the bag, if there is one, has a reference to the entity. -/
def HasFeature (attrs : Bag) (id : EntityId) : Prop :=
  ∃ items, Entries.get? "features" attrs = some (.arr items) ∧ id.reference ∈ items

instance : Decidable (attrs.HasFeature id) :=
  match hget : Entries.get? "features" attrs with
  | some (.arr items) =>
    decidable_of_iff (items.any (·.same id.reference) = true) <| by
      simp [HasFeature, hget, Json.same_reference]
  | none | some .null | some (.bool _) | some (.num _) | some (.str _) | some (.obj _) =>
    isFalse <| by simp [HasFeature, hget]

theorem Lists.hasFeature_iff {ids : List EntityId} (h : attrs.Lists "features" ids) :
    attrs.HasFeature id ↔ id ∈ ids := by
  have hinjective : Function.Injective EntityId.reference := fun _ _ =>
    EntityId.reference_injective
  unfold HasFeature
  rw [h]
  simp [hinjective.eq_iff]

theorem ordered_withFeature (h : Entries.Ordered attrs) (id : EntityId) :
    Entries.Ordered (attrs.withFeature id) := by
  unfold withFeature
  split
  · exact h.insert _ _
  · split
    · exact h
    · exact h.insert _ _
  · exact h

theorem ordered_withoutFeature (h : Entries.Ordered attrs) (id : EntityId) :
    Entries.Ordered (attrs.withoutFeature id) := by
  unfold withoutFeature
  split
  · exact h.insert _ _
  · exact h

/-- A bag without the reference stays as it is. -/
theorem withoutFeature_eq_self (hordered : Entries.Ordered attrs)
    (hnot : ¬attrs.HasFeature id) : attrs.withoutFeature id = attrs := by
  refine (ordered_withoutFeature hordered id).ext_get? hordered fun k => ?_
  by_cases hk : k = "features"
  · rw [hk, get?_features_withoutFeature]
    cases hget : Entries.get? "features" attrs with
    | none => rfl
    | some value =>
      cases value with
      | arr items =>
        have hall : ∀ item ∈ items, (!item.same id.reference) = true := by
          intro item hitem
          rw [Bool.not_eq_true', ← Bool.not_eq_true, Json.same_reference]
          rintro rfl
          exact hnot ⟨items, hget, hitem⟩
        rw [Option.map_some, Json.without, List.filter_eq_self.2 hall]
      | _ => rfl
  · exact get?_withoutFeature _ _ hk

/-- The last reference of a list goes as it came. -/
theorem withoutFeature_withFeature {ids : List EntityId} (hordered : Entries.Ordered attrs)
    (hids : attrs.Lists "features" ids) (hnot : id ∉ ids) :
    (attrs.withFeature id).withoutFeature id = attrs := by
  have hwith := ordered_withFeature hordered id
  refine (ordered_withoutFeature hwith id).ext_get? hordered fun k => ?_
  by_cases hk : k = "features"
  · have hfilter : (ids ++ [id]).filter (· ≠ id) = ids := by
      rw [List.filter_append, List.filter_eq_self.2 fun i hi => ?_]
      · simp
      · exact decide_eq_true fun heq => hnot (heq ▸ hi)
    have hback := (hids.withFeature hnot).withoutFeature id
    rw [hfilter] at hback
    rw [hk, hids]
    exact hback
  · rw [get?_withoutFeature _ _ hk, get?_withFeature _ _ hk]

end Bag

namespace Contents

open Creation

variable {c : Contents} {d : Definition} {id : EntityId}

/-! ### Bags in order -/

/-- The keys of every bag are in order, as the keys of objects are. -/
def Ordered (c : Contents) : Prop :=
  ∀ ⦃id stored⦄, c.stored? id = some stored → Entries.Ordered stored.entity.attributes

theorem Ordered.empty : Contents.empty.Ordered := fun _ _ h => by simp [stored?_empty] at h

theorem Ordered.add (h : c.Ordered) (hf : d.Fits c) (hfresh : c.stored? id = none)
    (hd : Entries.Ordered d.attributes) : (c.add d id).Ordered := by
  intro j stored' hstored'
  obtain ⟨-, rfl⟩ | ⟨stored, -, hstored, -, rfl⟩ := add_cases hf hfresh hstored'
  · exact hd
  · split
    · exact Bag.ordered_withFeature (h hstored) id
    · exact h hstored

theorem Ordered.remove (h : c.Ordered) (id : EntityId) : (c.remove id).Ordered := by
  intro j stored' hstored'
  obtain ⟨stored, -, hstored, rfl⟩ := remove_cases.1 hstored'
  exact Bag.ordered_withoutFeature (h hstored) id

theorem Creates.ordered {entropy : Entropy} {n n' : Nat} {path : List String} {body : Bag}
    {c' : Contents} (h : c.Creates entropy n path body id c' n') (hc : c.Sound)
    (hfresh : entropy.Fresh c n n') (hordered : c.Ordered) (hbody : Entries.Ordered body) :
    c'.Ordered := by
  cases h with
  | found => exact hordered
  | known => exact hordered
  | added hd _ hbits => exact hordered.add (hc.fits hd) (hfresh.next hbits) (hd.ordered hbody)

/-! ### A new entity and what is left without it -/

/-- Nothing is stored under the id, and no list of features refers to it. -/
structure IsUnused (c : Contents) (id : EntityId) : Prop where
  stored : c.stored? id = none
  features : ∀ {j stored}, c.stored? j = some stored → ¬stored.entity.attributes.HasFeature id

/-- Nothing depends on what is new. -/
theorem Sound.unneeded_add (hc : c.Sound) (hf : d.Fits c) (hfresh : c.stored? id = none) :
    (c.add d id).Unneeded id := by
  have hread : ∀ {project e}, c.Linked project e → ¬e.Reads id := by
    intro project e hlinked hreads
    obtain ⟨input, hinput, -⟩ := hlinked.has hreads
    simp [hfresh] at hinput
  constructor
  · intro e he
    rcases (holds_add hc hf hfresh).1 he with hold | ⟨-, hparent⟩
    · obtain ⟨owner, -, howner, -⟩ := hc.held hold
      simp [hfresh] at howner
    · cases hf.placed with
      | project _ _ hnone => simp [hnone] at hparent
      | owned howner _ _ _ hparent' =>
        obtain rfl := Option.some.inj (hparent'.symm.trans hparent)
        simp [hfresh] at howner
  · intro a ha
    rcases (consumes_add hf hfresh).1 ha with ⟨stored, hstored, hreads⟩ | ⟨-, hmem⟩
    · exact hread (hc.linked hstored) hreads
    · exact hread (hf.linked id) ((hf.consumes id id).1 hmem)

/-- Removing what is new leaves the relations that were there. -/
theorem Sound.relations_remove_add (hc : c.Sound) (hfresh : c.stored? id = none) :
    ((c.add d id).remove id).relations = c.relations := by
  have hshown : ∀ r : Relation, r.source = id ∨ r.target = id →
      decide (r.source ≠ id ∧ r.target ≠ id) = false := by
    rintro r (h | h) <;> simp [h]
  refine (filter_relations_add hshown d).trans (List.filter_eq_self.2 fun r hr => ?_)
  obtain ⟨a, b, hsource, htarget, -⟩ := hc.ends_of_mem hr
  refine decide_eq_true ⟨?_, ?_⟩
  · rintro rfl
    rw [hfresh] at hsource
    cases hsource
  · rintro rfl
    rw [hfresh] at htarget
    cases htarget

/-- Removing what is new leaves the entities that were there, with the bags that they had. -/
theorem Sound.stored?_remove_add (hc : c.Sound) (hordered : c.Ordered) (hf : d.Fits c)
    (hid : c.IsUnused id) (j : EntityId) : ((c.add d id).remove id).stored? j = c.stored? j := by
  rw [stored?_remove]
  split
  · rename_i hj
    rw [hj, hid.stored]
  · rename_i hj
    rw [stored?_add_ne hf hid.stored hj]
    cases hstored : c.stored? j with
    | none => split <;> rfl
    | some stored =>
      split
      · -- The anchor on whose list the entity went.
        rename_i hanchor
        obtain ⟨-, anchor, hanchorStored, htype⟩ := hf.of_anchor hanchor
        obtain rfl := Option.some.inj (hstored.symm.trans hanchorStored)
        obtain ⟨ids, hids, -⟩ := hc.features hstored htype
        have hnot : id ∉ ids := mt hids.hasFeature_iff.2 (hid.features hstored)
        have hbag := Bag.withoutFeature_withFeature (hordered hstored) hids hnot
        simp only [Option.map_some, Stored.withFeature, Stored.withoutFeature, hbag]
      · have hbag := Bag.withoutFeature_eq_self (hordered hstored) (hid.features hstored)
        simp only [Option.map_some, Stored.withoutFeature, hbag]

/-- Removing what is new undoes its addition. -/
theorem Sound.remove_add (hc : c.Sound) (hordered : c.Ordered) (hf : d.Fits c)
    (hid : c.IsUnused id) : (c.add d id).remove id = c := by
  have hentities : ((c.add d id).remove id).entities = c.entities :=
    Dict.ext_get? fun k => hc.stored?_remove_add hordered hf hid ⟨k⟩
  have hrelations : ((c.add d id).remove id).relations = c.relations :=
    hc.relations_remove_add hid.stored
  exact congrArg₂ Contents.mk hentities hrelations

/-- A creation that answers with an id under which nothing was stored has added its entity. -/
theorem Creates.added_of_new {entropy : Entropy} {n n' : Nat} {path : List String} {body : Bag}
    {c' : Contents} (h : c.Creates entropy n path body id c' n') (hc : c.Sound)
    (hnew : c.stored? id = none) :
    ∃ d, Describes c body path d ∧ c.find? d.qualifiedName = none ∧ c' = c.add d id := by
  cases h with
  | found hfinds =>
    obtain ⟨-, name, -, hfound⟩ := hfinds
    obtain ⟨stored, hstored, -⟩ := exists_of_projectNamed? hfound
    simp [hnew] at hstored
  | known hd hknows =>
    obtain ⟨i, stored, hstored, rfl, -⟩ := exists_of_find? hknows.found
    obtain rfl := hc.guid hstored
    simp [hnew] at hstored
  | added hd hnone => exact ⟨_, hd, hnone, rfl⟩

end Contents

namespace Store

/-- The registries that calls can lead to, where the keys of all objects in the bodies of the calls
are in order, as those of objects are. -/
inductive Orderly (entropy : Entropy) : Store → Prop
  | empty (token : Option String) : Orderly entropy (.empty token)
  | limit {s} (limit : Option Nat) : Orderly entropy s →
      Orderly entropy { s with failAfter := limit }
  | create {s} (path : List String) (body : Json) (headers : Headers) : Orderly entropy s →
      body.Ordered →
      entropy.Fresh s.contents s.drawn (s.create entropy path body headers).2.drawn →
      Orderly entropy (s.create entropy path body headers).2
  | delete {s} (path : List String) (headers : Headers) : Orderly entropy s →
      Orderly entropy (s.delete path headers).2

variable {entropy : Entropy} {s s' : Store} {path : List String} {body : Json}
  {headers headers' : Headers} {entity : CreatedEntity}

theorem Orderly.reachable (h : Orderly entropy s) : Reachable entropy s := by
  induction h with
  | empty token => exact .empty token
  | limit limit _ ih => exact .limit limit ih
  | create path body headers _ _ hfresh ih => exact .create path body headers ih hfresh
  | delete path headers _ ih => exact .delete path headers ih

theorem Orderly.ordered (h : Orderly entropy s) : s.contents.Ordered := by
  induction h with
  | empty => exact Contents.Ordered.empty
  | limit _ _ ih => exact ih
  | @create s path body headers hs hbody hfresh ih =>
    have hsound := hs.reachable.sound
    obtain ⟨-, hcontents | ⟨attributes, _, rfl, hcreates⟩⟩ :=
      create_cases hsound (Prod.mk.eta.symm : s.create entropy path body headers = _)
    · exact hcontents ▸ ih
    · exact hcreates.ordered hsound hfresh ih hbody.1
  | @delete s path headers hs ih =>
    obtain ⟨-, -, hcontents | ⟨id, -, -, hcontents⟩⟩ :=
      delete_cases (Prod.mk.eta.symm : s.delete path headers = _)
    · exact hcontents ▸ ih
    · exact hcontents ▸ ih.remove id

/-- In every registry that calls can lead to, whatever a creation stores under an id that was not in
use, project or source, anchor or feature, the deletion of its qualified name succeeds and leaves
stored exactly what was stored before. -/
theorem Orderly.creation_is_undone (h : Orderly entropy s)
    (hcreate : s.create entropy path body headers = (.ok entity, s'))
    (hid : s.contents.IsUnused entity.guid) (hauthorized : s'.isAuthorized headers' = true) :
    ∃ stored q, s'.contents.stored? entity.guid = some stored ∧
      stored.entity.qualifiedName? = some q ∧
      s'.delete ["entity", q] headers' =
        (.ok entity.guid.reference, { s' with contents := s.contents }) := by
  have hs := h.reachable.sound
  obtain ⟨attributes, -, -, -, hcreates, -⟩ := create_ok hs hcreate
  obtain ⟨d, hd, hnone, hcontents⟩ := hcreates.added_of_new hs hid.stored
  have hf := hs.fits hd
  have hs' : s'.contents.Sound := hcontents ▸ hs.add hf hid.stored hnone
  have hstored : s'.contents.stored? entity.guid = some (d.stored entity.guid) := by
    rw [hcontents]
    exact Contents.stored?_add_self hf hid.stored
  have hunneeded : s'.contents.Unneeded entity.guid := by
    rw [hcontents]
    exact hs.unneeded_add hf hid.stored
  refine ⟨_, d.qualifiedName, hstored, hf.qualifiedName, ?_⟩
  rw [delete_of_stored hs' hauthorized hstored hf.qualifiedName,
    if_pos (hs'.dependents_isEmpty_iff.2 hunneeded), hcontents, hs.remove_add h.ordered hf hid]

/-- With entropy that counts, a call that draws once at most needs the id of the count to be new. -/
theorem Orderly.create_counting (h : Orderly .counting s) (hbody : body.Ordered) (n : Nat)
    (hcount : s.drawn = n) (hdrawn : (s.create .counting path body headers).2.drawn ≤ n + 1)
    (hnew : s.contents.stored? (.ofBits (.ofNat 128 n)) = none) :
    Orderly .counting (s.create .counting path body headers).2 :=
  .create path body headers h hbody (hcount ▸ Entropy.fresh_counting_once hdrawn hnew)

theorem orderly_oneAnchor : Orderly .counting oneAnchor := by
  have hname : ∀ name, (Json.obj [("name", .str name)]).Ordered := fun _ =>
    ⟨List.pairwise_singleton _ _, trivial, trivial⟩
  have hkeys : ["name", "sourceId"].Pairwise (· < ·) := by decide +kernel
  have hsource : ∀ name id, (Json.obj [("name", .str name), ("sourceId", .str id)]).Ordered :=
    fun _ _ => ⟨Entries.ordered_of_keys hkeys (.refl _), trivial, trivial, trivial⟩
  have hproject : Orderly .counting oneProject :=
    (Orderly.empty none).create_counting (hname _) 0 rfl (by decide +kernel) rfl
  have honeSource : Orderly .counting oneSource :=
    hproject.create_counting (hname _) 1 (by decide +kernel) (by decide +kernel)
      (by decide +kernel)
  exact honeSource.create_counting (hsource _ _) 2 (by decide +kernel) (by decide +kernel)
    (by decide +kernel)

/-- A feature goes on the list of its anchor, and when it is deleted the list is as it was. -/
theorem oneAnchor_creation_is_undone :
    (∃ stored, oneFeature.contents.stored? (.ofBits 2) = some stored ∧
      stored.entity.attributes.HasFeature (.ofBits 3)) ∧
    oneFeature.delete ["entity", "p__a__f__g"] [] =
      (.ok (EntityId.ofBits 3).reference, { oneFeature with contents := oneAnchor.contents }) := by
  have hchecks : (oneFeature.contents.stored? (.ofBits 2)).any
        (fun stored => stored.entity.attributes.HasFeature (.ofBits 3)) = true ∧
      (oneFeature.contents.stored? (.ofBits 3)).bind
        (fun stored => stored.entity.qualifiedName?) = some "p__a__f__g" ∧
      (oneAnchor.create .counting
        ["projects", (EntityId.ofBits 0).text, "anchors", (EntityId.ofBits 2).text, "features"]
        (.obj [("name", .str "f__g"), ("qualifiedName", .str "p")]) []).1.map CreatedEntity.guid =
          .ok (.ofBits 3) ∧
      (oneAnchor.contents.stored? (.ofBits 3)).isNone = true ∧
      ∀ stored ∈ oneAnchor.contents.entities.values,
        ¬stored.entity.attributes.HasFeature (.ofBits 3) := by
    decide +kernel
  obtain ⟨hanchor, hname, hguid, hnone, hall⟩ := hchecks
  obtain ⟨anchor, hstored, hlisted⟩ := (Option.any_eq_true _ _).1 hanchor
  have hunused : oneAnchor.contents.IsUnused (.ofBits 3) :=
    ⟨Option.isNone_iff_eq_none.1 hnone, fun {j _} h => hall _ (Dict.mem_values.2 ⟨j.text, h⟩)⟩
  obtain ⟨entity, hentity, hid⟩ := map_eq_ok.1 hguid
  have hcreate : oneAnchor.create .counting _ _ [] = (.ok entity, oneFeature) :=
    Prod.ext hentity rfl
  have hauthorized : oneFeature.isAuthorized [] = true := rfl
  obtain ⟨feature, q, hfeature, hq, hdelete⟩ :=
    Orderly.creation_is_undone orderly_oneAnchor hcreate (hid ▸ hunused) hauthorized
  rw [hid] at hfeature hdelete
  rw [hfeature, Option.bind_some, hq] at hname
  obtain rfl := Option.some.inj hname
  exact ⟨⟨anchor, hstored, of_decide_eq_true hlisted⟩, hdelete⟩

end Store

end FeatureCatalog
