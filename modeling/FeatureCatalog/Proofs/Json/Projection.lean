import FeatureCatalog.Proofs.Json.Spelling
import FeatureCatalog.Proofs.Text.Camel

/-! Camel casing as a projection. Its result is in camel case, and a value whose keys have no
separators stays as it is. An object of the result, outside of what stands under `tags`, is the
camel case of an object of the value, at a place that differs in the spelling of keys; and it has
under `tags` what that object has under the last spelling of `tags` among its keys. -/

namespace FeatureCatalog.Json

open Text

/-- Induction over values: over the items of a list and the values of an object. -/
theorem induct {P : Json → Prop} (null : P .null) (bool : ∀ b, P (.bool b)) (num : ∀ n, P (.num n))
    (str : ∀ s, P (.str s)) (arr : ∀ items, (∀ j ∈ items, P j) → P (.arr items))
    (obj : ∀ entries, (∀ e ∈ entries, P e.2) → P (.obj entries)) : ∀ v, P v
  | .null => null
  | .bool b => bool b
  | .num n => num n
  | .str s => str s
  | .arr items => arr items fun j _ => induct null bool num str arr obj j
  | .obj entries => obj entries fun e _ => induct null bool num str arr obj e.2
termination_by v => sizeOf v
decreasing_by
  · rename_i hj
    have hlt := List.sizeOf_lt_of_mem hj
    simp only [Json.arr.sizeOf_spec]
    omega
  · rename_i he
    have hlt := List.sizeOf_lt_of_mem he
    obtain ⟨k, j⟩ := e
    simp only [Json.obj.sizeOf_spec, Prod.mk.sizeOf_spec] at hlt ⊢
    omega

/-! ### Places -/

/-- A step from a value to one that it holds. -/
inductive Step where
  | item (index : Nat)
  | entry (key : String)

/-- The value at the end of a path. -/
def at? : Json → List Step → Option Json
  | v, [] => some v
  | .arr items, .item i :: path => items[i]?.bind (at? · path)
  | .obj entries, .entry k :: path => (Entries.get? k entries).bind (at? · path)
  | _, _ :: _ => none

/-- The step with its key in camel case. -/
def Step.camel : Step → Step
  | .item i => .item i
  | .entry k => .entry (camelCase k)

/-- Some object in the value has the key, outside of what stands under `tags`. -/
def HasKey (v : Json) (key : String) : Prop :=
  ∃ path entries, .entry "tags" ∉ path ∧ v.at? path = some (.obj entries) ∧
    key ∈ entries.map (·.1)

theorem hasKey_of_mem {entries : Bag} {e : String × Json} (he : e ∈ entries) :
    (Json.obj entries).HasKey e.1 :=
  ⟨[], entries, List.not_mem_nil, by rw [at?], List.mem_map_of_mem he⟩

theorem HasKey.of_item {items : List Json} {j : Json} (hj : j ∈ items) {key : String}
    (h : j.HasKey key) : (Json.arr items).HasKey key := by
  obtain ⟨path, entries, htags, hat, hkey⟩ := h
  obtain ⟨i, hi⟩ := List.getElem?_of_mem hj
  refine ⟨.item i :: path, entries, by simpa using htags, ?_, hkey⟩
  rw [at?, hi, Option.bind_some, hat]

theorem HasKey.of_entry {entries : Bag} (hordered : Entries.Ordered entries) {e : String × Json}
    (he : e ∈ entries) (hne : e.1 ≠ "tags") {key : String} (h : e.2.HasKey key) :
    (Json.obj entries).HasKey key := by
  obtain ⟨path, inner, htags, hat, hkey⟩ := h
  refine ⟨.entry e.1 :: path, inner, by simpa [Ne.symm hne] using htags, ?_, hkey⟩
  rw [at?, hordered.get?_of_mem he, Option.bind_some, hat]

/-! ### Values in camel case -/

theorem camelizeItems_eq_map (items : List Json) : camelizeItems items = items.map camelize := by
  induction items with
  | nil => rfl
  | cons item rest ih => rw [camelizeItems, ih, List.map_cons]

/-- A value whose keys have no separators is in camel case. -/
theorem isCamel_of_isPlain {v : Json} (hv : v.Ordered) (h : ∀ k, v.HasKey k → IsPlain k) :
    v.IsCamel := by
  induction v using induct with
  | null | bool b | num n | str s => rw [IsCamel, camelize]
  | arr items ih =>
    rw [IsCamel, camelize, camelizeItems_eq]
    intro j hj
    exact ih j hj (orderedItems_iff.1 hv j hj) fun k hk => h k (hk.of_item hj)
  | obj entries ih =>
    refine isCamel_obj hv.1 fun e he => ⟨camelCase_eq_self (h _ (hasKey_of_mem he)), ?_⟩
    by_cases htags : e.1 = "tags"
    · exact .inl htags
    · refine .inr (ih e he (orderedValues_iff.1 hv.2 e he) fun k hk => h k ?_)
      exact hk.of_entry hv.1 he htags

/-- Camel casing leads to camel case. -/
theorem isCamel_camelize (v : Json) : v.camelize.IsCamel := by
  induction v using induct with
  | null | bool b | num n | str s => rw [camelize, IsCamel, camelize]
  | arr items ih =>
    rw [camelize, camelizeItems_eq_map]
    exact isCamel_arr ih
  | obj entries ih =>
    rw [camelize]
    refine isCamel_obj (Entries.ordered_ofList _) fun e he => ?_
    obtain ⟨f, hf, rfl⟩ := mem_camelizeEntries.1 (Entries.mem_of_mem_ofList he)
    refine ⟨camelCase_camelCase f.1, ?_⟩
    dsimp only
    split
    · exact .inl ‹_›
    · exact .inr (ih f hf)

/-! ### Objects of the result -/

theorem get?_ofList_camelizeEntries (k : String) (entries : Bag) :
    Entries.get? k (Entries.ofList (camelizeEntries entries)) =
      (entries.reverse.find? fun e => camelCase e.1 = k).map
        fun e => if camelCase e.1 = "tags" then e.2 else e.2.camelize := by
  rw [Entries.get?_ofList, camelizeEntries_eq_map, ← List.map_reverse]
  exact Entries.get?_map_key k _ _ _

theorem exists_of_camelize_eq_obj {v : Json} {out : Bag} (h : v.camelize = .obj out) :
    ∃ entries, v = .obj entries ∧ out = Entries.ofList (camelizeEntries entries) := by
  cases v with
  | obj entries =>
    rw [camelize] at h
    exact ⟨entries, rfl, (Json.obj.inj h).symm⟩
  | null | bool b | num n | str s | arr items =>
    rw [camelize] at h
    cases h

/-- What stands in the result, outside of `tags`, is the camel case of what stands in the value at a
place with other spellings of the keys. -/
theorem exists_of_at?_camelize {v out : Json} (hv : v.Ordered) {path : List Step}
    (htags : .entry "tags" ∉ path) (h : v.camelize.at? path = some out) :
    ∃ places u, u.Ordered ∧ places.map Step.camel = path ∧ v.at? places = some u ∧
      u.camelize = out := by
  induction path generalizing v with
  | nil =>
    rw [at?] at h
    exact ⟨[], v, hv, rfl, by rw [at?], Option.some.inj h⟩
  | cons step path ih =>
    obtain ⟨hstep, hpath⟩ := not_or.1 (mt List.mem_cons.2 htags)
    cases v with
    | null | bool b | num n | str s => simp [camelize, at?] at h
    | arr items =>
      cases step with
      | entry k => simp [camelize, at?] at h
      | item i =>
        rw [camelize, camelizeItems_eq_map, at?, List.getElem?_map] at h
        obtain ⟨_, hi, hat⟩ := Option.bind_eq_some_iff.1 h
        obtain ⟨j, hj, rfl⟩ := Option.map_eq_some_iff.1 hi
        have hordered := orderedItems_iff.1 hv j (List.mem_of_getElem? hj)
        obtain ⟨places, u, hu, hplaces, hat, hout⟩ := ih hordered hpath hat
        refine ⟨.item i :: places, u, hu, by rw [List.map_cons, hplaces, Step.camel], ?_, hout⟩
        rw [at?, hj, Option.bind_some, hat]
    | obj entries =>
      cases step with
      | item i => simp [camelize, at?] at h
      | entry k =>
        rw [camelize, at?, get?_ofList_camelizeEntries] at h
        obtain ⟨_, hk, hat⟩ := Option.bind_eq_some_iff.1 h
        -- of the entries that the step may have come from, the last one is in the result
        obtain ⟨e, he, rfl⟩ := Option.map_eq_some_iff.1 hk
        have hkey : camelCase e.1 = k := by simpa using List.find?_some he
        have hne : k ≠ "tags" := fun heq => hstep (by rw [heq])
        rw [if_neg (hkey ▸ hne)] at hat
        have hmem := List.mem_reverse.1 (List.mem_of_find?_eq_some he)
        have hordered := orderedValues_iff.1 hv.2 e hmem
        obtain ⟨places, u, hu, hplaces, hat, hout⟩ := ih hordered hpath hat
        have hplaces' : (Step.entry e.1 :: places).map Step.camel = .entry k :: path := by
          rw [List.map_cons, hplaces, Step.camel, hkey]
        refine ⟨.entry e.1 :: places, u, hu, hplaces', ?_, hout⟩
        rw [at?, hv.1.get?_of_mem hmem, Option.bind_some, hat]

/-- There are no separators in the keys of the result. -/
theorem isPlain_of_hasKey_camelize {v : Json} (hv : v.Ordered) {key : String}
    (h : v.camelize.HasKey key) : IsPlain key := by
  obtain ⟨path, out, htags, hat, hkey⟩ := h
  obtain ⟨_, u, -, -, -, hu⟩ := exists_of_at?_camelize hv htags hat
  obtain ⟨entries, -, rfl⟩ := exists_of_camelize_eq_obj hu
  obtain ⟨e, he, rfl⟩ := List.mem_map.1 hkey
  obtain ⟨f, -, rfl⟩ := mem_camelizeEntries.1 (Entries.mem_of_mem_ofList he)
  exact isPlain_camelCase f.1

/-- The second object has the keys of the first in camel case and no others. Under each it has the
value of the last key with this camel case: that value itself under `tags`, and elsewhere its camel
case. -/
structure Recased (entries out : Bag) : Prop where
  tags : ∀ e ∈ entries, camelCase e.1 = "tags" →
    ∃ f ∈ entries, camelCase f.1 = "tags" ∧ e.1 ≤ f.1 ∧ Entries.get? "tags" out = some f.2
  other : ∀ e ∈ entries, camelCase e.1 ≠ "tags" →
    ∃ f ∈ entries, camelCase f.1 = camelCase e.1 ∧ e.1 ≤ f.1 ∧
      Entries.get? (camelCase e.1) out = some f.2.camelize
  found : ∀ k w, Entries.get? k out = some w → ∃ e ∈ entries, camelCase e.1 = k

/-- Of the keys with the camel case of a key, the last one has its value in the result. -/
theorem exists_last_spelling {entries : Bag} (h : Entries.Ordered entries) {e : String × Json}
    (he : e ∈ entries) :
    ∃ f ∈ entries, camelCase f.1 = camelCase e.1 ∧ e.1 ≤ f.1 ∧
      Entries.get? (camelCase e.1) (Entries.ofList (camelizeEntries entries)) =
        some (if camelCase e.1 = "tags" then f.2 else f.2.camelize) := by
  cases hf : entries.reverse.find? fun f => camelCase f.1 = camelCase e.1 with
  | none => simpa using List.find?_eq_none.1 hf e (List.mem_reverse.2 he)
  | some f =>
    have hkey : camelCase f.1 = camelCase e.1 := by simpa using List.find?_some hf
    refine ⟨f, List.mem_reverse.1 (List.mem_of_find?_eq_some hf), hkey,
      h.le_of_find?_reverse hf he (by simp), ?_⟩
    rw [get?_ofList_camelizeEntries, hf, Option.map_some, hkey]

theorem recased_camelizeEntries {entries : Bag} (h : Entries.Ordered entries) :
    Recased entries (Entries.ofList (camelizeEntries entries)) where
  tags e he htags := by
    obtain ⟨f, hf, hkey, hle, hget⟩ := exists_last_spelling h he
    rw [htags] at hkey hget
    exact ⟨f, hf, hkey, hle, hget⟩
  other e he hne := by
    obtain ⟨f, hf, hkey, hle, hget⟩ := exists_last_spelling h he
    rw [if_neg hne] at hget
    exact ⟨f, hf, hkey, hle, hget⟩
  found k w hw := by
    have hmem := Entries.mem_of_mem_ofList (Entries.mem_of_get? hw)
    obtain ⟨e, he, heq⟩ := mem_camelizeEntries.1 hmem
    exact ⟨e, he, congrArg Prod.fst heq⟩

/-- Camel casing is a projection, for values and for names, onto what has no separators in its keys.
Each object that it leads to is the camel case of one object of the value, and has under `tags` what
that has under the last spelling of `tags`. -/
theorem camelize_is_projection {v : Json} (hv : v.Ordered) :
    v.camelize.camelize = v.camelize ∧
    (∀ key, v.camelize.HasKey key → IsPlain key) ∧
    ((∀ key, v.HasKey key → IsPlain key) → v.camelize = v) ∧
    (∀ path out, .entry "tags" ∉ path → v.camelize.at? path = some (.obj out) →
      ∃ places entries, places.map Step.camel = path ∧ v.at? places = some (.obj entries) ∧
        (Json.obj entries).camelize = .obj out ∧ Recased entries out) ∧
    ∀ name, camelCase (camelCase name) = camelCase name := by
  refine ⟨isCamel_camelize v, fun key => isPlain_of_hasKey_camelize hv, isCamel_of_isPlain hv,
    fun path out htags hpath => ?_, camelCase_camelCase⟩
  obtain ⟨places, u, hu, hplaces, hat, hout⟩ := exists_of_at?_camelize hv htags hpath
  obtain ⟨entries, rfl, rfl⟩ := exists_of_camelize_eq_obj hout
  exact ⟨places, entries, hplaces, hat, hout, recased_camelizeEntries hu.1⟩

/-- Both keys of the column, and both of the tags, have the same camel case. -/
def doublySpelled : Json :=
  .obj
    [ ("_tags", .obj [("owner_team", .str "ads")]),
      ("key-column", .null),
      ("key_column", .arr [.obj [("val_ß", .bool true)]]),
      ("tags", .obj [("owner-team", .str "feeds")]) ]

theorem ordered_doublySpelled : doublySpelled.Ordered := by
  simp only [doublySpelled, Ordered, OrderedValues, OrderedItems, Entries.Ordered, and_true]
  decide

theorem camelize_doublySpelled : doublySpelled.camelize =
    .obj
      [ ("keyColumn", .arr [.obj [("valSS", .bool true)]]),
        ("tags", .obj [("owner-team", .str "feeds")]) ] := by
  have htags : camelCase "_tags" = "tags" ∧ camelCase "tags" = "tags" := by decide +kernel
  have hcolumn : camelCase "key-column" = "keyColumn" ∧ camelCase "key_column" = "keyColumn" := by
    decide +kernel
  have hval : camelCase "val_ß" = "valSS" := by decide +kernel
  simp only [doublySpelled, camelize, camelizeItems, camelizeEntries, htags, hcolumn, hval, if_pos]
  rfl

theorem doublySpelled_projects :
    doublySpelled.Ordered ∧
    doublySpelled.camelize =
      .obj
        [ ("keyColumn", .arr [.obj [("valSS", .bool true)]]),
          ("tags", .obj [("owner-team", .str "feeds")]) ] ∧
    doublySpelled.camelize.camelize = doublySpelled.camelize ∧
    (∀ key, doublySpelled.camelize.HasKey key → IsPlain key) ∧
    ((∀ key, doublySpelled.HasKey key → IsPlain key) → doublySpelled.camelize = doublySpelled) ∧
    (∀ path out, .entry "tags" ∉ path → doublySpelled.camelize.at? path = some (.obj out) →
      ∃ places entries, places.map Step.camel = path ∧
        doublySpelled.at? places = some (.obj entries) ∧
        (Json.obj entries).camelize = .obj out ∧ Recased entries out) ∧
    ∀ name, camelCase (camelCase name) = camelCase name :=
  ⟨ordered_doublySpelled, camelize_doublySpelled, camelize_is_projection ordered_doublySpelled⟩

end FeatureCatalog.Json
