import FeatureCatalog.Proofs.Graph.Cycle
import FeatureCatalog.Proofs.Registration.Plan

/-! The checks before a registration. A graph is refused exactly if its derived features consume each
other in a circle, if an input of one of them will never have an id, or if a source of an anchor
cannot be written; and the first of these faults is the one that is reported. -/

namespace FeatureCatalog

namespace Graph

variable {g : Graph}

/-! ### Inputs without an id, and sources that cannot be written -/

/-- The feature is not registered, and no anchor lists it. -/
def IsOrphan (g : Graph) (k : FeatureKey) : Prop :=
  (g.feature k).registration = none ∧ ∀ a ∈ g.anchors, k ∉ a.features

/-- Some derived feature consumes an orphan. -/
def HasOrphanInput (g : Graph) : Prop := ∃ d ∈ g.derived, ∃ k ∈ d.anchoredInputs, g.IsOrphan k

theorem isOrphan_iff {k : FeatureKey} : g.IsOrphan k ↔ g.isResolvable k = false := by
  rw [IsOrphan, isResolvable, Bool.or_eq_false_iff, Option.isSome_eq_false_iff,
    Option.isNone_iff_eq_none, ← Bool.not_eq_true, isSome_owningAnchor?]
  simp

theorem not_hasOrphanInput
    (h : ∀ d ∈ g.derived, ∀ k ∈ d.anchoredInputs, g.isResolvable k = true) :
    ¬g.HasOrphanInput := by
  rintro ⟨d, hd, k, hk, horphan⟩
  have hresolvable := h d hd k hk
  rw [isOrphan_iff.1 horphan] at hresolvable
  cases hresolvable

theorem checkInputs_eq_error {ds : List DerivedFeature} {e : CatalogError}
    (h : g.checkInputs ds = .error e) : ∃ d ∈ ds, ∃ k ∈ d.anchoredInputs, g.IsOrphan k ∧
      e = .unresolvedInput d.name (g.feature k).name := by
  induction ds with
  | nil => cases h
  | cons d rest ih =>
    rw [checkInputs] at h
    split at h
    · rename_i k hfind
      have hnot := List.find?_some hfind
      refine ⟨d, List.mem_cons_self, k, List.mem_of_find?_eq_some hfind, ?_,
        (Except.error.inj h).symm⟩
      exact isOrphan_iff.2 (by simpa using hnot)
    · obtain ⟨d', hd', hk⟩ := ih h
      exact ⟨d', List.mem_cons_of_mem _ hd', hk⟩

end Graph

/-- The source is generic, and one of its options has the given key, which is reserved. -/
def Source.HasReservedOption (s : Source) (key : String) : Prop :=
  ∃ generic value, s.kind = .generic generic ∧ (key, value) ∈ generic.options.entries ∧
    key ∈ reservedOptionKeys

theorem Source.hasReservedOption_of_reservedKey? {s : Source} {key : String}
    (h : s.kind.reservedKey? = some key) : s.HasReservedOption key := by
  unfold SourceKind.reservedKey? at h
  split at h
  · rename_i generic hkind
    obtain ⟨⟨_, value⟩, hmem, rfl⟩ := List.mem_map.1 (List.mem_of_find?_eq_some h)
    exact ⟨generic, value, hkind, hmem, by simpa using List.find?_some h⟩
  · cases h

theorem Source.encode_eq_error {s : Source} {e : CatalogError} (h : s.encode = .error e) :
    ∃ key, s.HasReservedOption key ∧ e = .reservedOption s.name key := by
  unfold encode at h
  split at h
  · rename_i key hkey
    exact ⟨key, hasReservedOption_of_reservedKey? hkey, (Except.error.inj h).symm⟩
  · cases h

theorem Source.not_hasReservedOption {s : Source} (h : s.kind.reservedKey? = none) (key : String) :
    ¬s.HasReservedOption key := by
  rintro ⟨generic, value, hkind, hmem, hreserved⟩
  rw [hkind] at h
  have hnot := List.find?_eq_none.1 h key (List.mem_map.2 ⟨_, hmem, rfl⟩)
  simp [hreserved] at hnot

namespace Graph

variable {g : Graph}

/-- Some anchor has a source with a reserved option. -/
def HasReservedOption (g : Graph) : Prop :=
  ∃ a ∈ g.anchors, ∃ key, (g.source a.source).HasReservedOption key

theorem checkSources_eq_error {as : List Anchor} {e : CatalogError}
    (h : g.checkSources as = .error e) : ∃ a ∈ as, ∃ key,
      (g.source a.source).HasReservedOption key ∧
      e = .reservedOption (g.source a.source).name key := by
  induction as with
  | nil => cases h
  | cons a rest ih =>
    rcases bind_eq_error.1 h with hencode | ⟨_, -, hrest⟩
    · obtain ⟨key, hreserved, rfl⟩ := Source.encode_eq_error hencode
      exact ⟨a, List.mem_cons_self, key, hreserved, rfl⟩
    · obtain ⟨a', ha', hfault⟩ := ih hrest
      exact ⟨a', List.mem_cons_of_mem _ ha', hfault⟩

/-! ### The fault that is reported -/

/-- The graph has a fault, for which it is refused. -/
def IsFaulty (g : Graph) : Prop := g.IsCyclic ∨ g.HasOrphanInput ∨ g.HasReservedOption

/-- A graph has a fault that a registration reports: a cycle before all others, an orphan among the
inputs before a reserved option. -/
inductive Fault (g : Graph) : CatalogError → Prop
  | cycle {k} : Relation.TransGen g.IsInput k k →
      Fault g (.cyclicDependency (g.derivedFeature k).name)
  | orphan {d k} : ¬g.IsCyclic → d ∈ g.derived → k ∈ d.anchoredInputs → g.IsOrphan k →
      Fault g (.unresolvedInput d.name (g.feature k).name)
  | reserved {a key} : ¬g.IsCyclic → ¬g.HasOrphanInput → a ∈ g.anchors →
      (g.source a.source).HasReservedOption key →
      Fault g (.reservedOption (g.source a.source).name key)

theorem fault_of_plan {e : CatalogError} (h : g.plan = .error e) : g.Fault e := by
  unfold plan at h
  rcases bind_eq_error.1 h with horder | ⟨order, horder, h⟩
  · obtain ⟨k, -, hcycle, rfl⟩ := order_eq_error horder
    exact .cycle hcycle
  have hacyclic := not_isCyclic_of_order horder
  rcases bind_eq_error.1 h with hinputs | ⟨⟨⟩, hinputs, h⟩
  · obtain ⟨d, hd, k, hk, horphan, rfl⟩ := checkInputs_eq_error hinputs
    exact .orphan hacyclic hd hk horphan
  rcases bind_eq_error.1 h with hsources | ⟨⟨⟩, hsources, h⟩
  · obtain ⟨a, ha, key, hreserved, rfl⟩ := checkSources_eq_error hsources
    exact .reserved hacyclic (not_hasOrphanInput (checkInputs_eq_ok.1 hinputs)) ha hreserved
  · exact absurd h return_ne_error

theorem not_isFaulty_of_plan {tasks : List Task} (h : g.plan = .ok tasks) : ¬g.IsFaulty := by
  obtain ⟨order, horder, hinputs, hsources, -⟩ := plan_eq_ok.1 h
  rintro (hcyclic | ⟨d, hd, k, hk, horphan⟩ | ⟨a, ha, key, hreserved⟩)
  · exact not_isCyclic_of_order horder hcyclic
  · exact not_hasOrphanInput hinputs ⟨d, hd, k, hk, horphan⟩
  · exact Source.not_hasReservedOption (hsources a ha) key hreserved

theorem Fault.isFaulty {e : CatalogError} (h : g.Fault e) : g.IsFaulty := by
  cases h with
  | cycle hcycle => exact .inl ⟨_, hcycle⟩
  | orphan _ hd hk horphan => exact .inr (.inl ⟨_, hd, _, hk, horphan⟩)
  | reserved _ _ ha hreserved => exact .inr (.inr ⟨_, ha, _, hreserved⟩)

end Graph

end FeatureCatalog
