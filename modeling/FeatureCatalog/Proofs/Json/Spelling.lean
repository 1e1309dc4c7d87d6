import FeatureCatalog.Proofs.Json.Camel

/-! Spellings of object keys. A key goes by every spelling whose camel case it is. However the keys
of a value are spelled, outside of `tags`, camel casing brings back the value: the keys are then
those of the value, and so is their order, which other spellings may have changed. -/

namespace FeatureCatalog.Json

open Text

mutual

/-- The second value is the first with any spellings of its object keys. What stands under `tags` is
the same in both. -/
inductive Respells : Json → Json → Prop
  | null : Respells .null .null
  | bool (b : Bool) : Respells (.bool b) (.bool b)
  | num (n : Number) : Respells (.num n) (.num n)
  | str (s : String) : Respells (.str s) (.str s)
  | arr {items spelled} : RespellsItems items spelled → Respells (.arr items) (.arr spelled)
  | obj {entries spelled} : RespellsEntries entries spelled →
      Respells (.obj entries) (.obj (Entries.ofList spelled))

/-- `Respells` of each item. -/
inductive RespellsItems : List Json → List Json → Prop
  | nil : RespellsItems [] []
  | cons {item spelled rest spelledRest} : Respells item spelled → RespellsItems rest spelledRest →
      RespellsItems (item :: rest) (spelled :: spelledRest)

/-- The entries with any spellings of their keys, in the old order. -/
inductive RespellsEntries : Bag → Bag → Prop
  | nil : RespellsEntries [] []
  | tags {key value rest spelledRest} : camelCase key = "tags" → RespellsEntries rest spelledRest →
      RespellsEntries (("tags", value) :: rest) ((key, value) :: spelledRest)
  | cons {key name value spelled rest spelledRest} : camelCase key = name → name ≠ "tags" →
      Respells value spelled → RespellsEntries rest spelledRest →
      RespellsEntries ((name, value) :: rest) ((key, spelled) :: spelledRest)

end

theorem camelizeEntries_eq_map (entries : Bag) : camelizeEntries entries =
    entries.map fun e => (camelCase e.1, if camelCase e.1 = "tags" then e.2 else e.2.camelize) := by
  induction entries with
  | nil => rfl
  | cons e rest ih => rw [camelizeEntries, ih, List.map_cons]

/-- Entries that are in order after camel casing come back in that order, whatever order their own
keys have. -/
theorem ofList_camelizeEntries {entries spelled : Bag} (hordered : Entries.Ordered entries)
    (h : camelizeEntries spelled = entries) :
    Entries.ofList (camelizeEntries (Entries.ofList spelled)) = entries := by
  -- Spellings of distinct keys are distinct, so no entry gets lost among the others.
  have hkeys : (spelled.map (·.1)).Nodup := by
    apply List.Nodup.of_map camelCase
    have hnodup := hordered.nodup_keys
    rw [← h, camelizeEntries_eq_map] at hnodup
    simpa [Function.comp_def] using hnodup
  have hperm := (Entries.ofList_perm hkeys).map fun e : String × Json =>
    (camelCase e.1, if camelCase e.1 = "tags" then e.2 else e.2.camelize)
  rw [← camelizeEntries_eq_map, ← camelizeEntries_eq_map, h] at hperm
  exact Entries.ofList_eq_of_perm hperm hordered

mutual

theorem Respells.camelize : ∀ {j spelled : Json}, j.Respells spelled → j.Ordered →
    spelled.camelize = j
  | _, _, .null, _ | _, _, .bool _, _ | _, _, .num _, _ | _, _, .str _, _ => by rw [Json.camelize]
  | _, _, .arr h, hj => by rw [Json.camelize, h.camelizeItems hj]
  | _, _, .obj h, hj => by
    rw [Json.camelize, ofList_camelizeEntries hj.1 (h.camelizeEntries hj.2)]

theorem RespellsItems.camelizeItems : ∀ {items spelled : List Json},
    RespellsItems items spelled → OrderedItems items → Json.camelizeItems spelled = items
  | _, _, .nil, _ => by rw [Json.camelizeItems]
  | _, _, .cons h hrest, hj => by
    rw [Json.camelizeItems, h.camelize hj.1, hrest.camelizeItems hj.2]

theorem RespellsEntries.camelizeEntries : ∀ {entries spelled : Bag},
    RespellsEntries entries spelled → OrderedValues entries →
      Json.camelizeEntries spelled = entries
  | _, _, .nil, _ => by rw [Json.camelizeEntries]
  | _, _, .tags hkey hrest, hj => by
    rw [Json.camelizeEntries, hkey, if_pos rfl, hrest.camelizeEntries hj.2]
  | _, _, .cons hkey hname h hrest, hj => by
    rw [Json.camelizeEntries, hkey, if_neg hname, h.camelize hj.1, hrest.camelizeEntries hj.2]

end

/-- Attributes that have been respelled are camel cased to what they were. -/
theorem Respells.camelize_bag {attrs spelled : Bag} (h : (Json.obj attrs).Respells (.obj spelled))
    (hordered : (Json.obj attrs).Ordered) : spelled.camelize = attrs := by
  have hcamel := h.camelize hordered
  rw [Json.camelize] at hcamel
  exact Json.obj.inj hcamel

/-! ### Values in order -/

theorem orderedItems_iff {items : List Json} : OrderedItems items ↔ ∀ j ∈ items, j.Ordered := by
  induction items with
  | nil => simp [OrderedItems]
  | cons item rest ih => rw [OrderedItems, ih, List.forall_mem_cons]

theorem orderedValues_iff {entries : Bag} : OrderedValues entries ↔ ∀ e ∈ entries, e.2.Ordered := by
  induction entries with
  | nil => simp [OrderedValues]
  | cons e rest ih => rw [OrderedValues, ih, List.forall_mem_cons]

theorem ordered_arr {α : Type} {toJson : α → Json} {as : List α}
    (h : ∀ a ∈ as, (toJson a).Ordered) : (Json.arr (as.map toJson)).Ordered :=
  orderedItems_iff.2 (List.forall_mem_map.2 h)

theorem orderedValues_append {a b : Bag} :
    OrderedValues (a ++ b) ↔ OrderedValues a ∧ OrderedValues b := by
  simp only [orderedValues_iff, List.forall_mem_append]

theorem orderedValues_ofText? (k : String) (text : Option String) :
    OrderedValues (Bag.ofText? k text) := by
  cases text with
  | none => trivial
  | some s => exact ⟨trivial, trivial⟩

theorem ordered_ofTags (tags : Dict String) : (ofTags tags).Ordered := by
  refine ⟨(tags.mapValues Json.str).ordered, orderedValues_iff.2 fun e he => ?_⟩
  obtain ⟨tag, -, rfl⟩ := List.mem_map.1 he
  trivial

end FeatureCatalog.Json
