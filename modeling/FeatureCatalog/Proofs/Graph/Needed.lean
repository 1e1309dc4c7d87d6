import FeatureCatalog.Proofs.Graph.Order

/-! Which derived features an order lists: the requested ones and all that they consume, directly or
not. The walk only ever comes to features that are needed for the requested ones, and whatever it has
placed has its inputs placed before it. -/

namespace FeatureCatalog.Graph

variable {g : Graph} {requested keys : List DerivedKey}

theorem isInput_iff {u k : DerivedKey} :
    g.IsInput u k ↔ .derived u ∈ (g.derivedFeature k).inputs := by
  simp [IsInput, dependencies, DerivedFeature.inputs]

/-- A requested derived feature consumes `k`, directly or not, or is `k` itself. -/
def IsNeeded (g : Graph) (requested : List DerivedKey) (k : DerivedKey) : Prop :=
  ∃ r ∈ requested, Relation.ReflTransGen g.IsInput k r

theorem IsNeeded.input {u k : DerivedKey} (h : g.IsNeeded requested k) (hinput : g.IsInput u k) :
    g.IsNeeded requested u := by
  obtain ⟨r, hr, hreach⟩ := h
  exact ⟨r, hr, hreach.head hinput⟩

namespace Walk

variable {w w' : Walk}

/-- The walk has come to needed features only, and starts from no others. -/
structure Serves (g : Graph) (requested : List DerivedKey) (w : Walk) : Prop where
  roots : ∀ k ∈ w.roots, g.IsNeeded requested k
  visiting : ∀ f ∈ w.stack, g.IsNeeded requested f.node
  placed : ∀ k ∈ w.placed, g.IsNeeded requested k

theorem serves_start (g : Graph) (requested : List DerivedKey) :
    (Walk.start requested).Serves g requested where
  roots k hk := ⟨k, hk, .refl⟩
  visiting := by simp [Walk.start]
  placed := by simp [Walk.start]

theorem Serves.next (h : w.Serves g requested) (htraced : w.Traced g requested)
    (hnext : Next g w w') : w'.Serves g requested := by
  obtain ⟨hroots, hvisiting, hplaced⟩ := h
  have hpending := htraced.pending
  cases hnext with
  | skip _ heq =>
    rw [heq] at hroots
    exact ⟨(List.forall_mem_cons.1 hroots).2, hvisiting, hplaced⟩
  | start _ heq =>
    rw [heq] at hroots
    obtain ⟨hroot, hroots⟩ := List.forall_mem_cons.1 hroots
    exact ⟨hroots, List.forall_mem_cons.2 ⟨hroot, hvisiting⟩, hplaced⟩
  | place heq =>
    rw [heq] at hvisiting
    obtain ⟨hnode, hvisiting⟩ := List.forall_mem_cons.1 hvisiting
    exact ⟨hroots, hvisiting, List.forall_mem_cons.2 ⟨hnode, hplaced⟩⟩
  | pass heq =>
    rw [heq] at hvisiting
    obtain ⟨hnode, hvisiting⟩ := List.forall_mem_cons.1 hvisiting
    exact ⟨hroots, List.forall_mem_cons.2 ⟨hnode, hvisiting⟩, hplaced⟩
  | descend heq =>
    rw [heq] at hvisiting hpending
    obtain ⟨hnode, hvisiting⟩ := List.forall_mem_cons.1 hvisiting
    have hinput := hpending _ List.mem_cons_self _ List.mem_cons_self
    exact ⟨hroots, List.forall_mem_cons.2 ⟨hnode.input hinput,
      List.forall_mem_cons.2 ⟨hnode, hvisiting⟩⟩, hplaced⟩

/-- A cycle is reported at a feature that is needed. -/
theorem Serves.cycle (h : w.Serves g requested) (htraced : w.Traced g requested)
    {entry : DerivedKey} (hstep : w.step g = .cycle entry) : g.IsNeeded requested entry := by
  obtain ⟨node, pending, stack, hstack, -⟩ := cycle_of_step hstep
  have hmem : ⟨node, entry :: pending⟩ ∈ w.stack := hstack ▸ List.mem_cons_self
  exact (h.visiting _ hmem).input (htraced.pending _ hmem entry List.mem_cons_self)

/-- A walk to its end finds needed features only: an order of them, or one that is on a cycle. -/
theorem run_start (g : Graph) (requested : List DerivedKey) :
    (∃ keys, (Walk.start requested).run g _ (g.within_start requested) = .ok keys ∧
      IsOrder g requested keys ∧ ∀ k ∈ keys, g.IsNeeded requested k) ∨
    ∃ entry, (Walk.start requested).run g _ (g.within_start requested) = .error entry ∧
      g.IsNeeded requested entry ∧ Relation.TransGen g.IsInput entry entry := by
  obtain ⟨last, ⟨htraced, hserves⟩, hend⟩ :=
    exists_last (P := fun w => w.Traced g requested ∧ w.Serves g requested)
      (fun h hnext => ⟨h.1.next hnext, h.2.next h.1 hnext⟩) (g.within_start requested)
      ⟨traced_start g requested, serves_start g requested⟩
  rcases hend with ⟨hstep, hrun⟩ | ⟨entry, hstep, hrun⟩
  · refine .inl ⟨_, hrun, htraced.isOrder hstep, fun k hk => ?_⟩
    exact hserves.placed k (List.mem_reverse.1 hk)
  · exact .inr ⟨entry, hrun, hserves.cycle htraced hstep, htraced.cycle hstep⟩

/-- All that is needed is in an order. -/
theorem IsOrder.mem_of_isNeeded (h : IsOrder g requested keys) {k : DerivedKey}
    (hk : g.IsNeeded requested k) : k ∈ keys := by
  obtain ⟨r, hr, hreach⟩ := hk
  induction hreach using Relation.ReflTransGen.head_induction_on with
  | refl => exact h.requested r hr
  | head hinput _ ih =>
    obtain ⟨before, later, hkeys⟩ := List.append_of_mem ih
    exact hkeys ▸ List.mem_append_left _ (h.after before _ later hkeys _ hinput)

end Walk

theorem mem_order_iff (h : g.order requested = .ok keys) {k : DerivedKey} :
    k ∈ keys ↔ g.IsNeeded requested k := by
  refine ⟨fun hk => ?_, (isOrder_of_order h).mem_of_isNeeded⟩
  unfold order at h
  rcases Walk.run_start g requested with ⟨keys', hrun, -, hneeded⟩ | ⟨entry, hrun, -⟩
  · rw [hrun] at h
    obtain rfl := Except.ok.inj h
    exact hneeded k hk
  · rw [hrun] at h
    cases h

/-- Where there is no order, a needed feature on a cycle is reported. -/
theorem order_eq_error {e : CatalogError} (h : g.order requested = .error e) :
    ∃ k, g.IsNeeded requested k ∧ Relation.TransGen g.IsInput k k ∧
      e = .cyclicDependency (g.derivedFeature k).name := by
  unfold order at h
  rcases Walk.run_start g requested with ⟨keys, hrun, -⟩ | ⟨entry, hrun, hneeded, hcycle⟩
  · rw [hrun] at h
    cases h
  · rw [hrun] at h
    exact ⟨entry, hneeded, hcycle, (Except.error.inj h).symm⟩

/-- An order lists the requested derived features and all that they consume, directly or not, and no
others; it lists each of them once, and all inputs of a feature before it. -/
theorem order_lists_inputs_first (h : g.order requested = .ok keys) :
    keys.Nodup ∧
    (∀ k, k ∈ keys ↔ ∃ r ∈ requested, Relation.ReflTransGen g.IsInput k r) ∧
    ∀ before k later, keys = before ++ k :: later →
      ∀ u, .derived u ∈ (g.derivedFeature k).inputs → u ∈ before := by
  have horder := isOrder_of_order h
  exact ⟨horder.nodup, fun k => mem_order_iff h,
    fun before k later hkeys u hu => horder.after before k later hkeys u (isInput_iff.2 hu)⟩

/-- Four derived features. The last one consumes the second and the third, which both consume the
first. -/
def diamond : Graph :=
  let consuming (name : String) (inputs : List DerivedKey) : DerivedFeature :=
    { (default : DerivedFeature) with name, derivedInputs := inputs }
  { empty with
    derived :=
      [ consuming "base" [], consuming "left" [⟨0⟩], consuming "right" [⟨0⟩],
        consuming "top" [⟨1⟩, ⟨2⟩, ⟨1⟩] ] }

theorem order_diamond : diamond.order [⟨2⟩, ⟨3⟩, ⟨2⟩] = .ok [⟨0⟩, ⟨2⟩, ⟨1⟩, ⟨3⟩] := by
  cbv

theorem diamond_lists_inputs_first :
    diamond.order [⟨2⟩, ⟨3⟩, ⟨2⟩] = .ok [⟨0⟩, ⟨2⟩, ⟨1⟩, ⟨3⟩] ∧
    ([⟨0⟩, ⟨2⟩, ⟨1⟩, ⟨3⟩] : List DerivedKey).Nodup ∧
    (∀ k, k ∈ ([⟨0⟩, ⟨2⟩, ⟨1⟩, ⟨3⟩] : List DerivedKey) ↔
      ∃ r ∈ ([⟨2⟩, ⟨3⟩, ⟨2⟩] : List DerivedKey), Relation.ReflTransGen diamond.IsInput k r) ∧
    ∀ before k later, ([⟨0⟩, ⟨2⟩, ⟨1⟩, ⟨3⟩] : List DerivedKey) = before ++ k :: later →
      ∀ u, .derived u ∈ (diamond.derivedFeature k).inputs → u ∈ before :=
  ⟨order_diamond, order_lists_inputs_first order_diamond⟩

end FeatureCatalog.Graph
