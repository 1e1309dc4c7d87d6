import FeatureCatalog.Proofs.Graph.Keys
import FeatureCatalog.Proofs.Graph.Needed

/-! Orders and cycles of derived features. In an order, whatever a feature consumes comes before it,
so no feature in it is on a cycle; and derived features have an order exactly if there is no cycle
among them. -/

namespace FeatureCatalog.Graph

variable {g : Graph} {requested keys : List DerivedKey}

/-- Some derived feature consumes itself, directly or not. -/
def IsCyclic (g : Graph) : Prop := ∃ k, Relation.TransGen g.IsInput k k

theorem not_transGen_self_of_acc {u k : DerivedKey} (hk : Acc g.IsInput k)
    (hreaches : Relation.ReflTransGen g.IsInput u k) : ¬Relation.TransGen g.IsInput u u := by
  have hirrefl : ∀ v, Acc (Relation.TransGen g.IsInput) v → ¬Relation.TransGen g.IsInput v v := by
    intro v hv
    induction hv with
    | intro v _ ih => exact fun hcycle => ih v hcycle hcycle
  rcases Relation.reflTransGen_iff_eq_or_transGen.1 hreaches with rfl | hreaches
  · exact hirrefl _ hk.transGen
  · exact hirrefl u (hk.inv_of_transGen hreaches).transGen

namespace Walk.IsOrder

variable (h : IsOrder g requested keys)
include h

theorem mem_of_transGen {before later : List DerivedKey} {u k : DerivedKey}
    (hkeys : keys = before ++ k :: later) (hinput : Relation.TransGen g.IsInput u k) :
    u ∈ before := by
  induction hinput generalizing before later with
  | single hinput => exact h.after before _ later hkeys _ hinput
  | @tail v w _ hinput ih =>
    have hmem : v ∈ before := h.after before w later hkeys v hinput
    obtain ⟨first, second, rfl⟩ := List.append_of_mem hmem
    have hkeys' : keys = first ++ v :: (second ++ w :: later) := by simpa using hkeys
    exact List.mem_append_left _ (ih hkeys')

theorem not_mem_of_mem_before {before later : List DerivedKey} {u k : DerivedKey}
    (hkeys : keys = before ++ k :: later) (hu : u ∈ before) : u ∉ k :: later := by
  intro hlater
  have hnodup := h.nodup
  rw [hkeys] at hnodup
  exact (List.nodup_append.1 hnodup).2.2 u hu u hlater rfl

theorem not_transGen_self {k : DerivedKey} (hk : k ∈ keys) :
    ¬Relation.TransGen g.IsInput k k := by
  intro hcycle
  obtain ⟨before, later, hkeys⟩ := List.append_of_mem hk
  exact h.not_mem_of_mem_before hkeys (h.mem_of_transGen hkeys hcycle) List.mem_cons_self

/-- From a derived feature in an order, every descent along inputs ends. -/
theorem acc {k : DerivedKey} (hk : k ∈ keys) : Acc g.IsInput k := by
  suffices hprefix : ∀ before later, keys = before ++ later → ∀ k ∈ before, Acc g.IsInput k from
    hprefix keys [] (List.append_nil keys).symm k hk
  intro before later hkeys
  induction before using List.reverseRecOn generalizing later with
  | nil => simp
  | append_singleton before k ih =>
    have hkeys' : keys = before ++ k :: later := by simpa using hkeys
    have hbefore := ih (k :: later) hkeys'
    intro j hj
    rcases List.mem_append.1 hj with hj | hj
    · exact hbefore j hj
    · obtain rfl := List.mem_singleton.1 hj
      exact Acc.intro j fun u hu => hbefore u (h.after before j later hkeys' u hu)

/-- No derived feature in an order is an input of one before it. -/
theorem pairwise : keys.Pairwise fun k u => ¬g.IsInput u k := by
  suffices hsuffix : ∀ before later, keys = before ++ later →
      later.Pairwise fun k u => ¬g.IsInput u k from hsuffix [] keys rfl
  intro before later hkeys
  induction later generalizing before with
  | nil => exact List.Pairwise.nil
  | cons k rest ih =>
    refine List.pairwise_cons.2 ⟨fun u hu hinput => ?_, ih (before ++ [k]) (by simpa using hkeys)⟩
    have hbefore : u ∈ before := h.after before k rest hkeys u hinput
    exact h.not_mem_of_mem_before hkeys hbefore (List.mem_cons_of_mem _ hu)

end Walk.IsOrder

theorem mem_derivedKeys_of_isInput {u k : DerivedKey} (h : g.IsInput u k) : k ∈ g.derivedKeys :=
  mem_derivedKeys_of_mem_inputs (isInput_iff.1 h)

theorem mem_derivedKeys_of_transGen {u k : DerivedKey} (h : Relation.TransGen g.IsInput u k) :
    k ∈ g.derivedKeys := by
  cases h with
  | single hinput | tail _ hinput => exact mem_derivedKeys_of_isInput hinput

theorem not_isCyclic_of_order {order : List DerivedKey} (h : g.order g.derivedKeys = .ok order) :
    ¬g.IsCyclic := by
  rintro ⟨k, hcycle⟩
  have horder := isOrder_of_order h
  exact horder.not_transGen_self (horder.requested k (mem_derivedKeys_of_transGen hcycle)) hcycle

/-- No derived feature that is needed for the requested ones consumes itself, directly or not. -/
def IsAcyclicFor (g : Graph) (requested : List DerivedKey) : Prop :=
  ∀ k, g.IsNeeded requested k → ¬Relation.TransGen g.IsInput k k

theorem isAcyclicFor_of_order (h : g.order requested = .ok keys) : g.IsAcyclicFor requested :=
  fun _ hk => (isOrder_of_order h).not_transGen_self ((mem_order_iff h).2 hk)

theorem IsAcyclicFor.exists_order (h : g.IsAcyclicFor requested) :
    ∃ keys, g.order requested = .ok keys := by
  cases horder : g.order requested with
  | ok keys => exact ⟨keys, rfl⟩
  | error e =>
    obtain ⟨k, hneeded, hcycle, -⟩ := order_eq_error horder
    exact absurd hcycle (h k hneeded)

theorem IsAcyclicFor.acc (h : g.IsAcyclicFor requested) {k : DerivedKey} (hk : k ∈ requested) :
    Acc g.IsInput k := by
  obtain ⟨keys, horder⟩ := h.exists_order
  have hkeys := isOrder_of_order horder
  exact hkeys.acc (hkeys.requested k hk)

/-- There is no order exactly if a cycle can be reached from a requested derived feature. Then the
error names a derived feature that can be reached and lies on a cycle. -/
theorem order_fails_iff_cycle (g : Graph) (requested : List DerivedKey) :
    ((∃ e, g.order requested = .error e) ↔
      ∃ r ∈ requested, ∃ k, Relation.ReflTransGen g.IsInput k r ∧
        Relation.TransGen g.IsInput k k) ∧
    ∀ e, g.order requested = .error e →
      ∃ k ∈ g.derivedKeys, (∃ r ∈ requested, Relation.ReflTransGen g.IsInput k r) ∧
        Relation.TransGen g.IsInput k k ∧ e = .cyclicDependency (g.derivedFeature k).name := by
  refine ⟨⟨fun ⟨e, he⟩ => ?_, fun ⟨r, hr, k, hreach, hcycle⟩ => ?_⟩, fun e he => ?_⟩
  · obtain ⟨k, ⟨r, hr, hreach⟩, hcycle, -⟩ := order_eq_error he
    exact ⟨r, hr, k, hreach, hcycle⟩
  · cases horder : g.order requested with
    | error e => exact ⟨e, rfl⟩
    | ok keys => exact absurd hcycle (isAcyclicFor_of_order horder k ⟨r, hr, hreach⟩)
  · obtain ⟨k, hneeded, hcycle, rfl⟩ := order_eq_error he
    exact ⟨k, mem_derivedKeys_of_transGen hcycle, hneeded, hcycle, rfl⟩

end FeatureCatalog.Graph
