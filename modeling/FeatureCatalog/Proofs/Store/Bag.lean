import FeatureCatalog.Proofs.Dict
import FeatureCatalog.Store.Definition

/-! Bags as a registry keeps them: the references that stand under a key, what the lists of
features become, and what two bags of the same definition have in common. -/

namespace FeatureCatalog

theorem EntityId.reference_injective {a b : EntityId} (h : a.reference = b.reference) : a = b := by
  cases a
  cases b
  simpa [EntityId.reference, EntityId.toJson] using h

/-- References are the same value only if they refer to the same entity. -/
theorem EntityId.same_reference (a b : EntityId) :
    a.reference.same b.reference = true ↔ a = b := by
  cases a
  cases b
  simp [EntityId.reference, EntityId.toJson, Json.same, Json.sameEntries]

namespace Bag

/-- The bag refers to `id` under `key`. -/
def Refers (attrs : Bag) (key : String) (id : EntityId) : Prop :=
  Entries.get? key attrs = some id.reference

/-- The list under `key` refers to `ids` in turn. -/
def Lists (attrs : Bag) (key : String) (ids : List EntityId) : Prop :=
  Entries.get? key attrs = some (.arr (ids.map EntityId.reference))

theorem Refers.unique {attrs : Bag} {key : String} {a b : EntityId} (ha : attrs.Refers key a)
    (hb : attrs.Refers key b) : a = b :=
  EntityId.reference_injective (Option.some.inj (ha.symm.trans hb))

theorem Lists.unique {attrs : Bag} {key : String} {as bs : List EntityId}
    (ha : attrs.Lists key as) (hb : attrs.Lists key bs) : as = bs := by
  have h := Json.arr.inj (Option.some.inj (ha.symm.trans hb))
  exact List.map_injective_iff.2 (fun _ _ => EntityId.reference_injective) h

theorem text?_insert (attrs : Bag) (j k : String) (v : Json) :
    text? (Entries.insert k v attrs) j = if j = k then v.text? else text? attrs j := by
  unfold text?
  rw [Entries.get?_insert]
  split <;> rfl

/-! ### Lists of features -/

/-- Apart from the list of features, the bag stays as it is. -/
theorem get?_withFeature (attrs : Bag) (id : EntityId) {k : String} (hk : k ≠ "features") :
    Entries.get? k (attrs.withFeature id) = Entries.get? k attrs := by
  unfold withFeature
  split
  · exact Entries.get?_insert_ne hk _ _
  · split
    · rfl
    · exact Entries.get?_insert_ne hk _ _
  · rfl

theorem get?_withoutFeature (attrs : Bag) (id : EntityId) {k : String} (hk : k ≠ "features") :
    Entries.get? k (attrs.withoutFeature id) = Entries.get? k attrs := by
  unfold withoutFeature
  split
  · exact Entries.get?_insert_ne hk _ _
  · rfl

theorem any_same_reference (ids : List EntityId) (id : EntityId) :
    (ids.map EntityId.reference).any (·.same id.reference) = true ↔ id ∈ ids := by
  simp [EntityId.same_reference]

theorem Lists.withFeature_of_mem {attrs : Bag} {ids : List EntityId} {id : EntityId}
    (h : attrs.Lists "features" ids) (hmem : id ∈ ids) : attrs.withFeature id = attrs := by
  unfold withFeature
  rw [h]
  simp only [(any_same_reference ids id).2 hmem, if_true]

theorem Lists.withFeature_eq {attrs : Bag} {ids : List EntityId} {id : EntityId}
    (h : attrs.Lists "features" ids) (hmem : id ∉ ids) : attrs.withFeature id =
      Entries.insert "features" (.arr ((ids ++ [id]).map EntityId.reference)) attrs := by
  have hany : ¬((ids.map EntityId.reference).any (·.same id.reference) = true) :=
    fun hany => hmem ((any_same_reference ids id).1 hany)
  unfold Bag.withFeature
  rw [h]
  simp only [if_neg hany, List.map_append, List.map_singleton]

theorem Lists.withFeature {attrs : Bag} {ids : List EntityId} {id : EntityId}
    (h : attrs.Lists "features" ids) (hmem : id ∉ ids) :
    (attrs.withFeature id).Lists "features" (ids ++ [id]) := by
  rw [h.withFeature_eq hmem]
  exact Entries.get?_insert_self _ _ _

theorem Lists.withoutFeature_eq {attrs : Bag} {ids : List EntityId}
    (h : attrs.Lists "features" ids) (id : EntityId) : attrs.withoutFeature id =
      Entries.insert "features" (.arr ((ids.filter (· ≠ id)).map EntityId.reference)) attrs := by
  have hfilter : (ids.map EntityId.reference).filter (fun item => !item.same id.reference) =
      (ids.filter (· ≠ id)).map EntityId.reference := by
    rw [List.filter_map]
    congr 1
    refine List.filter_congr fun a _ => ?_
    by_cases ha : a = id
    · simp [ha, (EntityId.same_reference id id).2 rfl]
    · simp [ha, mt (EntityId.same_reference a id).1 ha]
  unfold Bag.withoutFeature
  rw [h]
  simp only [hfilter]

theorem Lists.withoutFeature {attrs : Bag} {ids : List EntityId} (h : attrs.Lists "features" ids)
    (id : EntityId) : (attrs.withoutFeature id).Lists "features" (ids.filter (· ≠ id)) := by
  rw [h.withoutFeature_eq]
  exact Entries.get?_insert_self _ _ _

/-! ### The same definition -/

theorem text?_of_sameEntries {a b : Bag} (h : Json.sameEntries a b = true) (k : String) :
    a.text? k = b.text? k := by
  induction a generalizing b with
  | nil =>
    cases b with
    | nil => rfl
    | cons _ _ => simp [Json.sameEntries] at h
  | cons e as ih =>
    cases b with
    | nil => simp [Json.sameEntries] at h
    | cons f bs =>
      simp only [Json.sameEntries, Bool.and_eq_true, beq_iff_eq] at h
      obtain ⟨⟨hkey, hsame⟩, hrest⟩ := h
      have htext : e.2.text? = f.2.text? := by
        generalize e.2 = x at hsame
        generalize f.2 = y at hsame
        cases x <;> cases y <;> simp_all [Json.same, Json.text?]
      have hih := ih hrest
      unfold text? at hih ⊢
      rw [Entries.get?_cons, Entries.get?_cons, hkey]
      split
      · exact htext
      · exact hih

/-- Bags of the same definition agree on every text, apart from the list of features. -/
theorem text?_of_sameDefinition {a b : Bag} (h : a.sameDefinition b = true) {k : String}
    (hk : k ≠ "features") : a.text? k = b.text? k := by
  have := text?_of_sameEntries h k
  unfold text? at this ⊢
  simpa only [Entries.get?_erase, if_neg hk] using this

end Bag

end FeatureCatalog
