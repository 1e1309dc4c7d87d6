import FeatureCatalog.Proofs.Graph.Cycle
import FeatureCatalog.Proofs.Registration.Recorded

/-! The order of the tasks of a plan. A source comes before its anchors, an anchor before its
features, a feature on the lists of several anchors is first that of the first of them, and derived
features come after all anchored ones and after the derived features that they consume. So whatever
a request refers to has been dealt with before. -/

namespace FeatureCatalog

namespace Task

/-- Of two tasks of a plan, the first has to be performed before the second. -/
inductive Precedes (g : Graph) : Task → Task → Prop
  | source (k : AnchorKey) : Precedes g (.source (g.anchor k).source) (.anchor k)
  | anchor (owner : AnchorKey) (k : FeatureKey) : Precedes g (.anchor owner) (.feature owner k)
  | feature {a b : AnchorKey} (k : FeatureKey) : a.index < b.index →
      Precedes g (.feature a k) (.feature b k)
  | anchored (owner : AnchorKey) (k : FeatureKey) (u : DerivedKey) :
      Precedes g (.feature owner k) (.derived u)
  | derived {u k : DerivedKey} : g.IsInput u k → Precedes g (.derived u) (.derived k)

/-- The entities whose ids a request gives. -/
def references (g : Graph) : Task → List Task
  | .source _ => []
  | .anchor k => [.source (g.anchor k).source]
  | .feature owner _ => [.anchor owner]
  | .derived k => (g.derivedFeature k).inputs.map ofInput

end Task

namespace Graph

variable {g : Graph} {order requested : List DerivedKey} {task other : Task}
  {done rest : List Task}

theorem pairwise_anchorKeys (g : Graph) :
    g.anchorKeys.Pairwise fun a b => a.index < b.index := by
  rw [anchorKeys, List.pairwise_map]
  exact List.pairwise_lt_range

theorem pairwise_anchorTasks {seen : List SourceKey} {keys : List AnchorKey}
    (hkeys : keys.Pairwise fun a b => a.index < b.index) :
    (g.anchorTasks seen keys).Pairwise fun x y => ¬Task.Precedes g y x := by
  induction keys generalizing seen with
  | nil => exact List.Pairwise.nil
  | cons a rest ih =>
    obtain ⟨hfirst, hrest⟩ := List.pairwise_cons.1 hkeys
    have hfeatures : ((g.anchor a).features.map (Task.feature a)).Pairwise
        fun x y => ¬Task.Precedes g y x := by
      rw [List.pairwise_map]
      refine List.pairwise_of_forall fun k l hprecedes => ?_
      cases hprecedes with
      | feature _ hlt => exact Nat.lt_irrefl _ hlt
    have hanchor : (Task.anchor a :: (g.anchor a).features.map (Task.feature a)).Pairwise
        fun x y => ¬Task.Precedes g y x := by
      refine List.pairwise_cons.2 ⟨fun y hy hprecedes => ?_, hfeatures⟩
      obtain ⟨k, -, rfl⟩ := List.mem_map.1 hy
      cases hprecedes
    rw [anchorTasks, List.pairwise_append]
    refine ⟨?_, ih hrest, fun x hx y hy hprecedes => ?_⟩
    · split
      · exact hanchor
      · exact List.pairwise_cons.2 ⟨fun y _ hprecedes => (by cases hprecedes), hanchor⟩
    · -- `x` belongs to the anchor `a` and `y` to a later one.
      cases hprecedes with
      | source k =>
        have hk : k = a := by split at hx <;> simp_all
        exact (source_mem_anchorTasks.1 hy).1 (hk ▸ List.mem_cons_self)
      | anchor owner k =>
        have hk : owner = a := by split at hx <;> simp_all
        exact Nat.lt_irrefl _ (hk ▸ hfirst owner (anchor_mem_anchorTasks.1 hy))
      | @feature b c k hlt =>
        have hk : c = a := by split at hx <;> simp_all
        exact Nat.lt_asymm hlt (hk ▸ hfirst b (feature_mem_anchorTasks.1 hy).1)
      | anchored | derived => split at hx <;> simp at hx

theorem pairwise_tasks (horder : Walk.IsOrder g requested order) :
    (g.tasks order).Pairwise fun x y => ¬Task.Precedes g y x := by
  rw [tasks, List.pairwise_append, List.pairwise_map]
  refine ⟨pairwise_anchorTasks g.pairwise_anchorKeys, ?_, fun x hx y hy hprecedes => ?_⟩
  · refine horder.pairwise.imp fun hnot hprecedes => ?_
    cases hprecedes with
    | derived hinput => exact hnot hinput
  · obtain ⟨k, -, rfl⟩ := List.mem_map.1 hy
    cases hprecedes with
    | derived => exact derived_not_mem_anchorTasks hx

theorem not_precedes_self (horder : Walk.IsOrder g requested order) (h : task ∈ g.tasks order) :
    ¬Task.Precedes g task task := by
  intro hprecedes
  cases hprecedes with
  | feature _ hlt => exact Nat.lt_irrefl _ hlt
  | derived hinput => exact horder.not_transGen_self (derived_mem_tasks.1 h) (.single hinput)

theorem mem_of_precedes (horder : Walk.IsOrder g requested order)
    (htasks : g.tasks order = done ++ task :: rest) (hprecedes : Task.Precedes g other task)
    (hother : other ∈ g.tasks order) : other ∈ done := by
  have hpairwise := pairwise_tasks horder
  have htask : task ∈ g.tasks order := by simp [htasks]
  rw [htasks] at hpairwise hother
  rcases List.mem_append.1 hother with hother | hother
  · exact hother
  · rcases List.mem_cons.1 hother with rfl | hother
    · exact absurd hprecedes (not_precedes_self horder htask)
    · have hafter := (List.pairwise_cons.1 (List.pairwise_append.1 hpairwise).2.1).1 other hother
      exact absurd hprecedes hafter

/-- What a request of a plan refers to is created before, or it is a feature that was registered
already. -/
theorem exists_done_of_reference (horder : Walk.IsOrder g requested order)
    (hinputs : ∀ d ∈ g.derived, ∀ k ∈ d.anchoredInputs, g.isResolvable k = true)
    (htasks : g.tasks order = done ++ task :: rest) {ref : Task}
    (href : ref ∈ task.references g) :
    (∃ own ∈ done, own.slot = ref.slot) ∨
      ∃ k, ref = .feature ⟨0⟩ k ∧ (g.feature k).registration.isSome := by
  have htask : task ∈ g.tasks order := by simp [htasks]
  have huses := mem_tasks.1 htask
  cases task with
  | source k => simp [Task.references] at href
  | anchor k =>
    obtain rfl := List.mem_singleton.1 href
    have hmem : .source (g.anchor k).source ∈ g.tasks order := mem_tasks.2 ⟨k, huses, rfl⟩
    exact .inl ⟨_, mem_of_precedes horder htasks (.source k) hmem, rfl⟩
  | feature owner k =>
    obtain rfl := List.mem_singleton.1 href
    exact .inl ⟨_, mem_of_precedes horder htasks (.anchor owner k) (mem_tasks.2 huses.1), rfl⟩
  | derived k =>
    obtain ⟨input, hinput, rfl⟩ := List.mem_map.1 href
    rcases List.mem_append.1 hinput with hanchored | hderived
    · obtain ⟨f, hf, rfl⟩ := List.mem_map.1 hanchored
      have hd := derivedFeature_mem (mem_derivedKeys_of_mem_inputs hinput)
      have hresolvable := hinputs _ hd f hf
      rw [isResolvable, Bool.or_eq_true] at hresolvable
      rcases hresolvable with hregistered | howned
      · exact .inr ⟨f, rfl, hregistered⟩
      · obtain ⟨owner, howner, hlists⟩ := mem_usedFeatures.1 (isSome_owningAnchor?.1 howned)
        have hmem : .feature owner f ∈ g.tasks order := mem_tasks.2 ⟨howner, hlists⟩
        exact .inl ⟨_, mem_of_precedes horder htasks (.anchored owner f k) hmem, rfl⟩
    · obtain ⟨u, hu, rfl⟩ := List.mem_map.1 hderived
      obtain ⟨before, later, heq⟩ := List.append_of_mem (derived_mem_tasks.1 htask)
      have hbefore : u ∈ before := horder.after before k later heq u hu
      have hmem : .derived u ∈ g.tasks order := derived_mem_tasks.2 (by simp [heq, hbefore])
      exact .inl ⟨_, mem_of_precedes horder htasks (.derived hu) hmem, rfl⟩

end Graph

end FeatureCatalog
