import FeatureCatalog.Proofs.Dict
import FeatureCatalog.Attributes

/-! Camel casing: values that are in camel case already stay as they are, and what is found under a
key afterwards. -/

namespace FeatureCatalog

namespace Json

open Text

/-- Every key of the value is in camel case, apart from what stands under `tags`. -/
def IsCamel (j : Json) : Prop := j.camelize = j

/-- The keys of the entries are in camel case, and so are their values, apart from `tags`. -/
def AreCamel (entries : Bag) : Prop :=
  ∀ e ∈ entries, camelCase e.1 = e.1 ∧ (e.1 = "tags" ∨ e.2.IsCamel)

theorem camelizeItems_eq {items : List Json} (h : ∀ j ∈ items, j.IsCamel) :
    camelizeItems items = items := by
  induction items with
  | nil => rfl
  | cons item rest ih =>
    obtain ⟨hitem, hrest⟩ := List.forall_mem_cons.1 h
    rw [camelizeItems, hitem, ih hrest]

theorem camelizeEntries_eq {entries : Bag} (h : AreCamel entries) :
    camelizeEntries entries = entries := by
  induction entries with
  | nil => rfl
  | cons e rest ih =>
    obtain ⟨⟨hkey, hvalue⟩, hrest⟩ := List.forall_mem_cons.1 h
    rw [camelizeEntries, ih hrest, hkey]
    rcases hvalue with htags | hcamel
    · rw [if_pos htags]
    · rw [hcamel, ite_self]

theorem mem_camelizeEntries {entries : Bag} {e : String × Json} : e ∈ camelizeEntries entries ↔
    ∃ f ∈ entries,
      (camelCase f.1, if camelCase f.1 = "tags" then f.2 else f.2.camelize) = e := by
  induction entries with
  | nil => simp [camelizeEntries]
  | cons f rest ih =>
    rw [camelizeEntries, List.mem_cons, ih, List.exists_mem_cons_iff, eq_comm]

theorem isCamel_str (s : String) : (Json.str s).IsCamel := by
  unfold IsCamel camelize
  rfl

theorem isCamel_num (n : Number) : (Json.num n).IsCamel := by
  unfold IsCamel camelize
  rfl

theorem isCamel_arr {α : Type} {toJson : α → Json} {as : List α}
    (h : ∀ a ∈ as, (toJson a).IsCamel) : (Json.arr (as.map toJson)).IsCamel := by
  unfold IsCamel camelize
  rw [camelizeItems_eq (List.forall_mem_map.2 h)]

theorem isCamel_obj {entries : Bag} (hordered : Entries.Ordered entries)
    (h : AreCamel entries) : (Json.obj entries).IsCamel := by
  unfold IsCamel camelize
  rw [camelizeEntries_eq h, hordered.ofList_eq]

theorem areCamel_append {a b : Bag} : AreCamel (a ++ b) ↔ AreCamel a ∧ AreCamel b :=
  List.forall_mem_append

theorem areCamel_cons {k : String} {v : Json} {rest : Bag} :
    AreCamel ((k, v) :: rest) ↔ (camelCase k = k ∧ (k = "tags" ∨ v.IsCamel)) ∧ AreCamel rest :=
  List.forall_mem_cons

theorem areCamel_nil : AreCamel [] := nofun

theorem areCamel_ofText? {k : String} (hk : camelCase k = k) (text : Option String) :
    AreCamel (Bag.ofText? k text) := by
  cases text with
  | none => exact areCamel_nil
  | some s => exact areCamel_cons.2 ⟨⟨hk, .inr (isCamel_str s)⟩, areCamel_nil⟩

theorem AreCamel.insert {entries : Bag} (h : AreCamel entries) {k : String} {v : Json}
    (hk : camelCase k = k) (hv : k = "tags" ∨ v.IsCamel) :
    AreCamel (Entries.insert k v entries) := by
  intro e he
  rcases Entries.mem_insert he with rfl | he
  · exact ⟨hk, hv⟩
  · exact h e he

theorem AreCamel.filter {entries : Bag} (h : AreCamel entries) (p : String × Json → Bool) :
    AreCamel (entries.filter p) :=
  fun e he => h e (List.mem_of_mem_filter he)

end Json

/-- A bag in camel case stays as it is. -/
theorem Bag.camelize_eq {attrs : Bag} (hordered : Entries.Ordered attrs)
    (h : Json.AreCamel attrs) : attrs.camelize = attrs := by
  rw [Bag.camelize, Json.camelizeEntries_eq h, hordered.ofList_eq]

/-- Where all entries whose key becomes `k` hold what stands under `k`, that is found there. -/
theorem Bag.get?_camelize {attrs : Bag} {k : String} {v : Json} (hk : Text.camelCase k = k)
    (htags : k ≠ "tags") (hget : Entries.get? k attrs = some v)
    (h : ∀ e ∈ attrs, Text.camelCase e.1 = k → e.2 = v) :
    Entries.get? k attrs.camelize = some v.camelize := by
  have hmem := Json.mem_camelizeEntries.2 ⟨(k, v), Entries.mem_of_get? hget, rfl⟩
  rw [hk, if_neg htags] at hmem
  rw [Bag.camelize, Entries.get?_ofList]
  refine Entries.get?_eq_some (List.mem_reverse.2 hmem) fun e he hkey => ?_
  obtain ⟨f, hf, rfl⟩ := Json.mem_camelizeEntries.1 (List.mem_reverse.1 he)
  dsimp only at hkey ⊢
  rw [hkey, if_neg htags, h f hf hkey]

end FeatureCatalog
