import FeatureCatalog.Text.Camel

/-! Camel case leaves no separators in a name, and a name without separators is its own camel case.
So the camel case of a camel case is the same again, however many characters a capital has: no
letter has a capital with a separator in it. -/

namespace FeatureCatalog.Text

/-- There is neither `_` nor `-` in the name. -/
def IsPlain (name : String) : Prop := '_' ∉ name.toList ∧ '-' ∉ name.toList

theorem isPlain_iff {name : String} :
    IsPlain name ↔ ∀ c ∈ name.toList, isSeparator c = false := by
  simp only [IsPlain, isSeparator, Bool.or_eq_false_iff, beq_eq_false_iff_ne]
  exact ⟨fun h c hc => ⟨fun heq => h.1 (heq ▸ hc), fun heq => h.2 (heq ▸ hc)⟩,
    fun h => ⟨fun hmem => (h _ hmem).1 rfl, fun hmem => (h _ hmem).2 rfl⟩⟩

/-! ### Capitals -/

/-- The code points of `-` and `_`. -/
def IsSeparatorCode (n : Nat) : Prop := n = 0x2D ∨ n = 0x5F

instance (n : Nat) : Decidable (IsSeparatorCode n) := by
  unfold IsSeparatorCode
  infer_instance

theorem isSeparator_eq_true_iff {c : Char} : isSeparator c = true ↔ IsSeparatorCode c.toNat := by
  simp only [isSeparator, Bool.or_eq_true, beq_iff_eq, ← Char.toNat_inj, IsSeparatorCode]
  exact or_comm

theorem not_isSeparatorCode_of_ofNat {n : Nat} (h : ¬IsSeparatorCode n) :
    isSeparator (Char.ofNat n) = false := by
  rw [Bool.eq_false_iff, ne_eq, isSeparator_eq_true_iff]
  by_cases hn : n.isValidChar
  · rwa [Char.ofNat, dif_pos hn]
  · rw [Char.ofNat, dif_neg hn]
    decide

/-- All capitals of a run lie between the separators, or above both of them. -/
theorem capitalRuns_between : ∀ run ∈ capitalRuns, 0x2D < run.capital ∧
    (run.capital + (run.last - run.first) < 0x5F ∨ 0x5F < run.capital) := by
  decide +kernel

theorem not_isSeparatorCode_capital {run : CapitalRun} (hrun : run ∈ capitalRuns) {n m : Nat}
    (h : run.capitalOf? n = some m) : ¬IsSeparatorCode m := by
  obtain ⟨habove, hbetween⟩ := capitalRuns_between run hrun
  unfold CapitalRun.capitalOf? at h
  split at h
  · rename_i hin
    obtain rfl := Option.some.inj h
    unfold IsSeparatorCode
    omega
  · cases h

theorem not_isSeparatorCode_expansion :
    ∀ e ∈ capitalExpansions, ∀ m ∈ e.2, ¬IsSeparatorCode m := by
  decide +kernel

theorem not_isSeparatorCode_upperCodes {n : Nat} (h : ¬IsSeparatorCode n) :
    ∀ m ∈ upperCodes n, ¬IsSeparatorCode m := by
  intro m hm
  unfold upperCodes at hm
  split at hm
  · rename_i codes hfind
    exact not_isSeparatorCode_expansion _ (List.mem_of_find?_eq_some hfind) m hm
  · split at hm
    · rename_i code hcapital
      obtain ⟨run, hrun, hcode⟩ := List.exists_of_findSome?_eq_some hcapital
      exact List.mem_singleton.1 hm ▸ not_isSeparatorCode_capital hrun hcode
    · exact List.mem_singleton.1 hm ▸ h

theorem not_isSeparator_upper {c : Char} (h : isSeparator c = false) :
    ∀ d ∈ upper c, isSeparator d = false := by
  intro d hd
  obtain ⟨code, hcode, rfl⟩ := List.mem_map.1 hd
  have hc : ¬IsSeparatorCode c.toNat := by simpa [← isSeparator_eq_true_iff] using h
  exact not_isSeparatorCode_of_ofNat (not_isSeparatorCode_upperCodes hc code hcode)

/-! ### Names -/

theorem not_isSeparator_camelTail (raise : Bool) (cs : List Char) :
    ∀ d ∈ camelTail raise cs, isSeparator d = false := by
  induction cs generalizing raise with
  | nil => exact nofun
  | cons c rest ih =>
    rw [camelTail]
    split
    · exact ih true
    · rename_i hc
      have hc : isSeparator c = false := by simpa using hc
      split
      · exact List.forall_mem_append.2 ⟨not_isSeparator_upper hc, ih false⟩
      · exact List.forall_mem_cons.2 ⟨hc, ih false⟩

theorem camelTail_eq_self {cs : List Char} (h : ∀ c ∈ cs, isSeparator c = false) :
    camelTail false cs = cs := by
  induction cs with
  | nil => rfl
  | cons c rest ih =>
    obtain ⟨hc, hrest⟩ := List.forall_mem_cons.1 h
    simp [camelTail, hc, ih hrest]

/-- There are no separators in the camel case of a name. -/
theorem isPlain_camelCase (name : String) : IsPlain (camelCase name) := by
  rw [isPlain_iff]
  unfold camelCase
  split
  · simp
  · rename_i c rest hdrop
    rw [String.toList_ofList]
    refine List.forall_mem_cons.2 ⟨?_, not_isSeparator_camelTail false rest⟩
    simpa [hdrop] using List.head?_dropWhile_not isSeparator name.toList

theorem camelCase_eq_self {name : String} (h : IsPlain name) : camelCase name = name := by
  rw [isPlain_iff] at h
  have hdrop : name.toList.dropWhile isSeparator = name.toList := by
    cases hname : name.toList with
    | nil => rfl
    | cons c rest => simp [h c (by simp [hname])]
  unfold camelCase
  rw [hdrop]
  split
  · rename_i hnil
    simpa using hnil.symm
  · rename_i c rest hcons
    rw [hcons] at h
    rw [camelTail_eq_self (List.forall_mem_cons.1 h).2, ← hcons, String.ofList_toList]

theorem camelCase_camelCase (name : String) : camelCase (camelCase name) = camelCase name :=
  camelCase_eq_self (isPlain_camelCase name)

end FeatureCatalog.Text
