import FeatureCatalog.Feature
import Mathlib.Data.Bool.Basic
import Mathlib.Data.List.Pairwise

/-! The inputs of derived features as one list, the anchored ones before the derived ones. The list
is brought into this layout by a stable sort, and kept in it by insertions: of a derived input at
the end, and of an anchored one where the derived ones start. A derived feature keeps the two kinds
in two lists; read one after the other, these are that one list. -/

namespace FeatureCatalog

namespace FeatureRef

/-- The input is itself a derived feature. -/
def isDerived : FeatureRef → Bool
  | .anchored _ => false
  | .derived _ => true

/-- The anchored ones and then the derived ones, both in the old order. -/
def anchoredFirst (refs : List FeatureRef) : List FeatureRef :=
  refs.filter (!·.isDerived) ++ refs.filter isDerived

/-- The order of kinds, in which anchored references come first. -/
def kindLe (a b : FeatureRef) : Bool := a.isDerived ≤ b.isDerived

/-- The references sorted by their kind. -/
def arrange (refs : List FeatureRef) : List FeatureRef := refs.mergeSort kindLe

/-- The place between `lo` and `hi` from which on references are derived, found by halving. -/
def partitionPoint (refs : List FeatureRef) (lo hi : Nat) : Nat :=
  if lo < hi then
    if refs[lo + (hi - lo) / 2]?.any isDerived then partitionPoint refs lo (lo + (hi - lo) / 2)
    else partitionPoint refs (lo + (hi - lo) / 2 + 1) hi
  else lo
termination_by hi - lo

/-- Inserts a reference: a derived one at the end, an anchored one at the partition point. -/
def place (refs : List FeatureRef) (input : FeatureRef) : List FeatureRef :=
  refs.insertIdx (if input.isDerived then refs.length else partitionPoint refs 0 refs.length) input

/-! ### Sorting -/

theorem kindLe_iff {a b : FeatureRef} :
    kindLe a b = true ↔ (a.isDerived = true → b.isDerived = true) := by
  unfold kindLe
  cases a.isDerived <;> cases b.isDerived <;> decide

theorem kindLe_trans (a b c : FeatureRef) (hab : kindLe a b = true) (hbc : kindLe b c = true) :
    kindLe a c = true := by
  rw [kindLe_iff] at hab hbc ⊢
  exact hbc ∘ hab

theorem kindLe_total (a b : FeatureRef) : (kindLe a b || kindLe b a) = true := by
  rw [Bool.or_eq_true, kindLe_iff, kindLe_iff]
  cases a.isDerived <;> simp

/-- A list that is sorted by kind is in the layout. -/
theorem eq_anchoredFirst_of_sorted {refs : List FeatureRef}
    (h : refs.Pairwise fun a b => kindLe a b = true) : refs = anchoredFirst refs := by
  induction refs with
  | nil => rfl
  | cons r rest ih =>
    obtain ⟨hr, hrest⟩ := List.pairwise_cons.1 h
    cases hkind : r.isDerived with
    | false =>
      simp only [anchoredFirst, List.filter_cons, hkind, Bool.not_false, if_true, List.cons_append]
      exact congrArg (r :: ·) (ih hrest)
    | true =>
      -- Nothing anchored comes after a derived reference.
      have hderived : ∀ b ∈ r :: rest, b.isDerived = true := by
        rw [List.forall_mem_cons]
        exact ⟨hkind, fun b hb => kindLe_iff.1 (hr b hb) hkind⟩
      have hanchored : ∀ b ∈ r :: rest, ¬(!b.isDerived) = true := by
        intro b hb
        simp [hderived b hb]
      rw [anchoredFirst, List.filter_eq_nil_iff.2 hanchored, List.filter_eq_self.2 hderived,
        List.nil_append]

/-- Sorting keeps the order among references of one kind. -/
theorem filter_arrange (refs : List FeatureRef) {p : FeatureRef → Bool}
    (hp : ∀ a b, p a = true → p b = true → a.isDerived = b.isDerived) :
    (arrange refs).filter p = refs.filter p := by
  have hsame : (refs.filter p).Pairwise fun a b => kindLe a b = true := by
    refine List.pairwise_of_forall_mem_list fun a ha b hb => kindLe_iff.2 fun hkind => ?_
    rwa [← hp a b (List.mem_filter.1 ha).2 (List.mem_filter.1 hb).2]
  have hsub : (refs.filter p).Sublist (arrange refs) :=
    List.sublist_mergeSort kindLe_trans kindLe_total hsame List.filter_sublist
  have hsub' : (refs.filter p).Sublist ((arrange refs).filter p) := by
    have hfilter := hsub.filter p
    rwa [List.filter_filter, funext fun a => Bool.and_self (p a)] at hfilter
  have hlength : (refs.filter p).length = ((arrange refs).filter p).length :=
    ((List.mergeSort_perm refs kindLe).filter p).length_eq.symm
  exact (hsub'.eq_of_length hlength).symm

theorem arrange_eq (refs : List FeatureRef) : arrange refs = anchoredFirst refs := by
  have hsorted := List.pairwise_mergeSort kindLe_trans kindLe_total refs
  calc arrange refs = anchoredFirst (arrange refs) := eq_anchoredFirst_of_sorted hsorted
    _ = anchoredFirst refs := by
      rw [anchoredFirst, anchoredFirst, filter_arrange refs (by simp +contextual),
        filter_arrange refs (by simp +contextual)]

/-! ### Inserting -/

section Layout

variable {anchored derived : List FeatureRef} (hanchored : ∀ r ∈ anchored, r.isDerived = false)
  (hderived : ∀ r ∈ derived, r.isDerived = true)
include hanchored hderived

theorem any_getElem?_append {i : Nat} (hi : i < (anchored ++ derived).length) :
    (anchored ++ derived)[i]?.any isDerived = true ↔ anchored.length ≤ i := by
  rcases Nat.lt_or_ge i anchored.length with hlt | hge
  · rw [List.getElem?_append_left hlt, List.getElem?_eq_getElem hlt, Option.any_some,
      hanchored _ (List.getElem_mem hlt)]
    simp
    omega
  · have hlt : i - anchored.length < derived.length := by
      rw [List.length_append] at hi
      omega
    rw [List.getElem?_append_right hge, List.getElem?_eq_getElem hlt, Option.any_some,
      hderived _ (List.getElem_mem hlt)]
    simp [hge]

/-- In the layout the search ends where the derived references start. -/
theorem partitionPoint_append (lo hi : Nat) (hlo : lo ≤ anchored.length)
    (hhi : anchored.length ≤ hi) (hle : hi ≤ (anchored ++ derived).length) :
    partitionPoint (anchored ++ derived) lo hi = anchored.length := by
  fun_induction partitionPoint with
  | case1 lo hi hlt hmid ih =>
    rw [any_getElem?_append hanchored hderived (by omega)] at hmid
    exact ih hlo hmid (by omega)
  | case2 lo hi hlt hmid ih =>
    rw [any_getElem?_append hanchored hderived (by omega)] at hmid
    exact ih (by omega) hhi hle
  | case3 lo hi hge => omega

/-- An input is inserted after the others of its kind. -/
theorem place_append (input : FeatureRef) : place (anchored ++ derived) input =
    if input.isDerived then anchored ++ (derived ++ [input])
    else (anchored ++ [input]) ++ derived := by
  unfold place
  split
  · rw [List.insertIdx_length_self, List.append_assoc]
  · rw [partitionPoint_append hanchored hderived _ _ (Nat.zero_le _) (by simp) (Nat.le_refl _)]
    clear hanchored hderived
    induction anchored with
    | nil => rfl
    | cons r rest ih => exact congrArg (r :: ·) ih

end Layout

/-- The layout is kept, with the input after all others of its kind. -/
theorem place_anchoredFirst (refs : List FeatureRef) (input : FeatureRef) :
    place (anchoredFirst refs) input = anchoredFirst (refs ++ [input]) := by
  unfold anchoredFirst
  rw [place_append (by simp) (by simp), List.filter_append, List.filter_append]
  cases input with
  | anchored key => simp [isDerived]
  | derived key => simp [isDerived, List.filter_cons]

theorem foldl_place (refs more : List FeatureRef) :
    more.foldl place (anchoredFirst refs) = anchoredFirst (refs ++ more) := by
  induction more generalizing refs with
  | nil => rw [List.append_nil, List.foldl_nil]
  | cons input rest ih =>
    rw [List.foldl_cons, place_anchoredFirst, ih, List.append_assoc, List.singleton_append]

end FeatureRef

namespace DerivedFeature

open FeatureRef

/-- The input is inserted where the one list of inputs has its place. -/
theorem inputs_addInput (d : DerivedFeature) (input : FeatureRef) :
    (d.addInput input).inputs = place d.inputs input := by
  have hanchored : ∀ r ∈ d.anchoredInputs.map FeatureRef.anchored, r.isDerived = false :=
    List.forall_mem_map.2 fun _ _ => rfl
  have hderived : ∀ r ∈ d.derivedInputs.map FeatureRef.derived, r.isDerived = true :=
    List.forall_mem_map.2 fun _ _ => rfl
  rw [inputs, inputs, place_append hanchored hderived]
  cases input <;> simp [addInput, isDerived]

theorem foldl_place_inputs (d : DerivedFeature) (refs : List FeatureRef) :
    (d.addInputs refs).inputs = refs.foldl place d.inputs := by
  induction refs generalizing d with
  | nil => rfl
  | cons input rest ih =>
    show ((d.addInput input).addInputs rest).inputs = _
    rw [ih, inputs_addInput, List.foldl_cons]

/-- A derived feature without inputs gets those that are declared, sorted by kind. -/
theorem inputs_addInputs_eq_arrange {d : DerivedFeature} (h : d.inputs = [])
    (declared : List FeatureRef) : (d.addInputs declared).inputs = arrange declared := by
  have hnil : anchoredFirst [] = [] := rfl
  rw [foldl_place_inputs, h, ← hnil, foldl_place, List.nil_append, arrange_eq]

end DerivedFeature

end FeatureCatalog
