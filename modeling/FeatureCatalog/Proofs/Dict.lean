import FeatureCatalog.Dict
import Mathlib.Data.List.Pairwise
import Mathlib.Data.List.Nodup

/-! Look-ups in entry lists and dictionaries: what `get?` finds after each operation, and that two
dictionaries in which every look-up agrees are equal. -/

namespace FeatureCatalog

namespace Entries

variable {α β : Type}

theorem get?_cons (k j : String) (v : α) (rest : List (String × α)) :
    get? k ((j, v) :: rest) = if k = j then some v else get? k rest := rfl

theorem mem_of_get? {k : String} {v : α} {entries : List (String × α)}
    (h : get? k entries = some v) : (k, v) ∈ entries := by
  induction entries with
  | nil => simp at h
  | cons e rest ih =>
    rw [get?_cons] at h
    split at h
    · rename_i hk
      obtain rfl := Option.some.inj h
      exact hk ▸ List.mem_cons_self
    · exact List.mem_cons_of_mem _ (ih h)

theorem get?_eq_none_iff {k : String} {entries : List (String × α)} :
    get? k entries = none ↔ ∀ e ∈ entries, e.1 ≠ k := by
  induction entries with
  | nil => simp
  | cons e rest ih =>
    rw [get?_cons, List.forall_mem_cons]
    split
    · rename_i hk
      simp [hk]
    · rename_i hk
      simp [ih, Ne.symm hk]

/-- A value that all entries of its key have is found. -/
theorem get?_eq_some {k : String} {v : α} {entries : List (String × α)} (hmem : (k, v) ∈ entries)
    (h : ∀ e ∈ entries, e.1 = k → e.2 = v) : get? k entries = some v := by
  cases hget : get? k entries with
  | none => exact absurd rfl (get?_eq_none_iff.1 hget _ hmem)
  | some w => exact congrArg some (h _ (mem_of_get? hget) rfl)

theorem get?_eq_some_iff {entries : List (String × α)} (h : (entries.map (·.1)).Nodup) {k : String}
    {v : α} : get? k entries = some v ↔ (k, v) ∈ entries := by
  refine ⟨mem_of_get?, fun hmem => get?_eq_some hmem fun e he hkey => ?_⟩
  exact congrArg Prod.snd (List.inj_on_of_nodup_map h he hmem hkey)

theorem get?_eq_none_iff_not_mem {k : String} {entries : List (String × α)} :
    get? k entries = none ↔ k ∉ entries.map (·.1) := by
  rw [get?_eq_none_iff, List.mem_map]
  exact ⟨fun h ⟨e, he, hkey⟩ => h e he hkey, fun h e he hkey => h ⟨e, he, hkey⟩⟩

theorem get?_append (k : String) (a b : List (String × α)) :
    get? k (a ++ b) = (get? k a).or (get? k b) := by
  induction a with
  | nil => simp
  | cons e rest ih =>
    rw [List.cons_append, get?_cons, get?_cons]
    split
    · rfl
    · exact ih

theorem get?_insert (j k : String) (v : α) (entries : List (String × α)) :
    get? j (insert k v entries) = if j = k then some v else get? j entries := by
  split
  · rename_i h
    rw [h, get?_insert_self]
  · rename_i h
    exact get?_insert_ne h v entries

theorem get?_map (k : String) (f : α → β) (entries : List (String × α)) :
    get? k (entries.map fun e => (e.1, f e.2)) = (get? k entries).map f := by
  induction entries with
  | nil => rfl
  | cons e rest ih =>
    rw [List.map_cons, get?_cons, get?_cons]
    split
    · rfl
    · exact ih

theorem get?_erase (j k : String) (entries : List (String × α)) :
    get? j (erase k entries) = if j = k then none else get? j entries := by
  induction entries with
  | nil => simp [erase]
  | cons e rest ih =>
    simp only [erase, List.filter_cons] at ih ⊢
    by_cases hek : e.1 = k
    · simp only [hek, ne_eq, not_true_eq_false, decide_false, Bool.false_eq_true, if_false]
      rw [ih, get?_cons, hek]
      split <;> rfl
    · simp only [ne_eq, hek, not_false_eq_true, decide_true, if_true]
      rw [get?_cons, get?_cons, ih]
      split
      · rename_i hje
        simp [hje, hek]
      · rfl

/-- Inserting entries in turn leaves the last value of every key. -/
theorem get?_foldl_insert (k : String) (entries acc : List (String × α)) :
    get? k (entries.foldl (fun acc e => insert e.1 e.2 acc) acc) =
      (get? k entries.reverse).or (get? k acc) := by
  induction entries generalizing acc with
  | nil => simp
  | cons e rest ih =>
    rw [List.foldl_cons, ih, List.reverse_cons, get?_append, get?_insert, Option.or_assoc]
    congr 1
    rw [get?_cons]
    split <;> simp

theorem get?_ofList (k : String) (entries : List (String × α)) :
    get? k (ofList entries) = get? k entries.reverse := by
  rw [ofList, get?_foldl_insert, get?_nil, Option.or_none]

theorem get?_reverse {entries : List (String × α)} (h : (entries.map (·.1)).Nodup) (k : String) :
    get? k entries.reverse = get? k entries := by
  induction entries with
  | nil => rfl
  | cons e rest ih =>
    obtain ⟨hhead, hrest⟩ := List.nodup_cons.1 h
    rw [List.reverse_cons, get?_append, ih hrest, get?_cons, get?_cons, get?_nil]
    split
    · rename_i hk
      have hnone : get? k rest = none := by
        refine get?_eq_none_iff.2 fun e' he' heq => hhead ?_
        exact List.mem_map.2 ⟨e', he', heq.trans hk⟩
      rw [hnone, Option.none_or]
    · rw [Option.or_none]

theorem ordered_of_keys {entries : List (String × α)} {keys : List String}
    (h : keys.Pairwise (· < ·)) (hkeys : (entries.map (·.1)).Sublist keys) : Ordered entries :=
  List.pairwise_map.1 (h.sublist hkeys)

/-- An entry that may be missing has no key but its own. -/
theorem keys_toList (k : String) (v : Option β) (f : β → α) :
    ((v.map fun b => (k, f b)).toList.map (·.1)).Sublist [k] := by
  cases v with
  | none => exact List.nil_sublist [k]
  | some b => exact .refl [k]

namespace Ordered

theorem nodup_keys {entries : List (String × α)} (h : Ordered entries) :
    (entries.map (·.1)).Nodup := by
  refine List.pairwise_map.2 (List.Pairwise.imp (fun hlt heq => ?_) h)
  rw [heq] at hlt
  exact String.lt_irrefl _ hlt

theorem get?_of_mem {entries : List (String × α)} (h : Ordered entries) {k : String} {v : α}
    (hmem : (k, v) ∈ entries) : get? k entries = some v :=
  (get?_eq_some_iff h.nodup_keys).2 hmem

theorem mem_iff {entries : List (String × α)} (h : Ordered entries) {k : String} {v : α} :
    (k, v) ∈ entries ↔ get? k entries = some v :=
  ⟨h.get?_of_mem, mem_of_get?⟩

theorem get?_filter {entries : List (String × α)} (h : Ordered entries)
    (p : String → α → Bool) (k : String) :
    get? k (entries.filter fun e => p e.1 e.2) = (get? k entries).filter (p k) := by
  ext v
  rw [← (h.filter _).mem_iff, List.mem_filter, h.mem_iff]
  simp [Option.filter_eq_some_iff]

theorem eq_of_perm {a b : List (String × α)} (ha : Ordered a) (hb : Ordered b) (h : a.Perm b) :
    a = b := by
  refine List.Perm.eq_of_pairwise (fun x y _ _ hxy hyx => ?_) ha hb h
  exact absurd (String.lt_trans hxy hyx) (String.lt_irrefl _)

theorem ext_get? {a b : List (String × α)} (ha : Ordered a) (hb : Ordered b)
    (h : ∀ k, get? k a = get? k b) : a = b := by
  refine ha.eq_of_perm hb ((List.perm_ext_iff_of_nodup ?_ ?_).2 fun e => ?_)
  · exact List.Nodup.of_map _ ha.nodup_keys
  · exact List.Nodup.of_map _ hb.nodup_keys
  · rw [show e = (e.1, e.2) from rfl, ha.mem_iff, hb.mem_iff, h]

theorem ofList_eq {entries : List (String × α)} (h : Ordered entries) :
    ofList entries = entries := by
  refine (ordered_ofList entries).ext_get? h fun k => ?_
  rw [get?_ofList, get?_reverse h.nodup_keys]

/-- No key that satisfies the condition comes after the last one that does. -/
theorem le_of_find?_reverse {entries : List (String × α)} (h : Ordered entries)
    {p : String × α → Bool} {e f : String × α} (hfind : entries.reverse.find? p = some f)
    (he : e ∈ entries) (hp : p e = true) : e.1 ≤ f.1 := by
  obtain ⟨-, after, before, heq, hafter⟩ := List.find?_eq_some_iff_append.1 hfind
  have hdescending := List.pairwise_reverse.2 h
  rw [← List.mem_reverse, heq] at he
  rw [heq] at hdescending
  rcases List.mem_append.1 he with he | he
  · have hnot := hafter e he
    simp [hp] at hnot
  · rcases List.mem_cons.1 he with rfl | he
    · exact String.le_refl e.1
    · have hbefore := (List.pairwise_append.1 hdescending).2.1
      exact Std.le_of_lt ((List.pairwise_cons.1 hbefore).1 e he)

end Ordered

/-- Entries with distinct keys are only put in order. -/
theorem ofList_perm {entries : List (String × α)} (h : (entries.map (·.1)).Nodup) :
    (ofList entries).Perm entries := by
  have hordered := ordered_ofList entries
  refine (List.perm_ext_iff_of_nodup ?_ ?_).2 fun e => ?_
  · exact List.Nodup.of_map _ hordered.nodup_keys
  · exact List.Nodup.of_map _ h
  · rw [show e = (e.1, e.2) from rfl, hordered.mem_iff, get?_ofList, get?_reverse h]
    exact get?_eq_some_iff h

theorem ofList_eq_of_perm {a b : List (String × α)} (h : a.Perm b) (hb : Ordered b) :
    ofList a = b := by
  have hnodup : (a.map (·.1)).Nodup := (h.map _).nodup_iff.2 hb.nodup_keys
  exact (ordered_ofList a).eq_of_perm hb ((ofList_perm hnodup).trans h)

theorem mem_of_mem_ofList {e : String × α} {entries : List (String × α)}
    (h : e ∈ ofList entries) : e ∈ entries := by
  have hget := (ordered_ofList entries).get?_of_mem h
  rw [get?_ofList] at hget
  exact List.mem_reverse.1 (mem_of_get? hget)

theorem get?_map_key (k : String) (key : α → String) (value : α → β) (as : List α) :
    get? k (as.map fun a => (key a, value a)) = (as.find? fun a => key a = k).map value := by
  induction as with
  | nil => rfl
  | cons a rest ih =>
    rw [List.map_cons, get?_cons, List.find?_cons, ih]
    by_cases hk : key a = k
    · simp [hk]
    · simp [hk, Ne.symm hk]

end Entries

namespace Dict

variable {α β : Type}

theorem ext_get? {a b : Dict α} (h : ∀ k, a.get? k = b.get? k) : a = b :=
  ext (a.ordered.ext_get? b.ordered h)

theorem mem_entries {d : Dict α} {k : String} {v : α} :
    (k, v) ∈ d.entries ↔ d.get? k = some v :=
  d.ordered.mem_iff

theorem mem_values {d : Dict α} {v : α} : v ∈ d.values ↔ ∃ k, d.get? k = some v := by
  simp [values, ← mem_entries]

theorem get?_ofList (entries : List (String × α)) (k : String) :
    (ofList entries).get? k = Entries.get? k entries.reverse :=
  Entries.get?_ofList k entries

theorem get?_insert (d : Dict α) (j k : String) (v : α) :
    (d.insert k v).get? j = if j = k then some v else d.get? j :=
  Entries.get?_insert j k v d.entries

theorem get?_erase (d : Dict α) (j k : String) :
    (d.erase k).get? j = if j = k then none else d.get? j :=
  Entries.get?_erase j k d.entries

theorem get?_mapValues (d : Dict α) (f : α → β) (k : String) :
    (d.mapValues f).get? k = (d.get? k).map f :=
  Entries.get?_map k f d.entries

theorem get?_filter (d : Dict α) (p : String → α → Bool) (k : String) :
    (d.filter p).get? k = (d.get? k).filter (p k) :=
  d.ordered.get?_filter p k

theorem get?_modify (d : Dict α) (j k : String) (f : α → α) :
    (d.modify k f).get? j = if j = k then (d.get? j).map f else d.get? j := by
  unfold modify
  split
  · rename_i v hv
    rw [get?_insert]
    split
    · rename_i hjk
      rw [hjk, hv, Option.map_some]
    · rfl
  · rename_i hnone
    split
    · rename_i hjk
      rw [hjk, hnone, Option.map_none]
    · rfl

theorem ofList_entries (d : Dict α) : ofList d.entries = d :=
  ext d.ordered.ofList_eq

end Dict

end FeatureCatalog
