import FeatureCatalog.Proofs.Graph.Cycle

/-! The order of derived features as a recursion: a feature is placed after its inputs have been
visited one after another. The walk does the same with a stack of its own, as long as it meets no
cycle. -/

namespace FeatureCatalog.Graph

variable {g : Graph} {requested : List DerivedKey}

/-- A derived feature from which every descent along inputs ends. -/
structure Grounded (g : Graph) where
  key : DerivedKey
  acc : Acc g.IsInput key

namespace Grounded

instance : WellFoundedRelation (Grounded g) where
  rel u k := g.IsInput u.key k.key
  wf := ⟨fun k => InvImage.accessible key k.acc⟩

/-- The inputs of a derived feature, in the order of declaration. -/
def inputs (k : Grounded g) : List (Grounded g) :=
  (g.dependencies k.key).attach.map fun u => ⟨u.1, k.acc.inv u.2⟩

theorem map_key_inputs (k : Grounded g) : k.inputs.map key = g.dependencies k.key := by
  simp [inputs, Function.comp_def]

theorem isInput_of_mem_inputs {u k : Grounded g} (h : u ∈ k.inputs) : g.IsInput u.key k.key := by
  unfold IsInput
  rw [← map_key_inputs]
  exact List.mem_map_of_mem h

/-- Visits a derived feature after those that have been placed: nothing is to be done if it is one of
them; otherwise its inputs are visited one after another, and then it is placed itself. -/
def visit (placed : List DerivedKey) (k : Grounded g) : List DerivedKey :=
  if k.key ∈ placed then placed
  else k.inputs.attach.foldl (fun placed u => visit placed u.1) placed ++ [k.key]
termination_by k
decreasing_by exact isInput_of_mem_inputs u.2

theorem visit_of_mem {placed : List DerivedKey} {k : Grounded g} (h : k.key ∈ placed) :
    visit placed k = placed := by
  rw [visit, if_pos h]

theorem visit_of_not_mem {placed : List DerivedKey} {k : Grounded g} (h : k.key ∉ placed) :
    visit placed k = k.inputs.foldl visit placed ++ [k.key] := by
  rw [visit, if_neg h, List.foldl_attach]

theorem induct {P : Grounded g → Prop} (h : ∀ k, (∀ u, g.IsInput u.key k.key → P u) → P k)
    (k : Grounded g) : P k :=
  WellFoundedRelation.wf.induction k h

end Grounded

/-- The requested derived features, which depend on no cycle, and all that they consume, in depth-first
postorder: the requested ones are visited in turn. -/
def postorder (g : Graph) (requested : List DerivedKey) (h : g.IsAcyclicFor requested) :
    List DerivedKey :=
  (requested.attach.map fun k => (⟨k.1, h.acc k.2⟩ : Grounded g)).foldl Grounded.visit []

namespace Walk

variable {w w' : Walk}

theorem step_of_next (h : Next g w w') : w.step g = .next w' := by
  cases h with
  | skip hstack hroots hmark => simp [step, hstack, hroots, hmark]
  | start hstack hroots hmark => simp [step, hstack, hroots, hmark]
  | place hstack => simp [step, hstack]
  | pass hstack hmark => simp [step, hstack, hmark]
  | descend hstack hmark => simp [step, hstack, hmark]

theorem Traced.steps (h : w.Traced g requested) (hsteps : Relation.ReflTransGen (Next g) w w') :
    w'.Traced g requested := by
  induction hsteps with
  | refl => exact h
  | tail _ hnext ih => exact ih.next hnext

section Visit

variable (h : w.Traced g requested) {k : Grounded g}
include h

theorem Traced.visit_of_done (hmark : w.mark? k.key = some .done) :
    k.visit w.placed.reverse = w.placed.reverse :=
  Grounded.visit_of_mem (List.mem_reverse.2 ((h.done _).1 hmark))

theorem Traced.visit_of_unmarked (hmark : w.mark? k.key = none) :
    k.visit w.placed.reverse = k.inputs.foldl Grounded.visit w.placed.reverse ++ [k.key] := by
  refine Grounded.visit_of_not_mem fun hmem => ?_
  have hdone := (h.done _).2 (List.mem_reverse.1 hmem)
  rw [hmark] at hdone
  cases hdone

end Visit

/-- The walk goes on until it has the given stack and has placed the given features, without starting
from another requested feature. -/
def GoesOnTo (g : Graph) (w : Walk) (stack : List Frame) (placed : List DerivedKey) : Prop :=
  ∃ w', Relation.ReflTransGen (Next g) w w' ∧ w'.stack = stack ∧ w'.roots = w.roots ∧
    w'.placed.reverse = placed

/-- An input is visited, whether or not the walk has come to it before, if the walk places a feature
that it enters there. -/
theorem Traced.goesOn_visit (h : w.Traced g requested) {node : DerivedKey} {u : Grounded g}
    {pending : List DerivedKey} {below : List Frame}
    (hstack : w.stack = ⟨node, u.key :: pending⟩ :: below)
    (hplace : ∀ {v : Walk} {below : List Frame}, v.Traced g requested →
      v.stack = ⟨u.key, u.inputs.map (·.key)⟩ :: below →
      GoesOnTo g v below (u.inputs.foldl Grounded.visit v.placed.reverse ++ [u.key])) :
    GoesOnTo g w (⟨node, pending⟩ :: below) (u.visit w.placed.reverse) := by
  cases hmark : w.mark? u.key with
  | some mark =>
    cases mark with
    | done => exact ⟨_, .single (.pass hstack hmark), rfl, rfl, (h.visit_of_done hmark).symm⟩
    | visiting =>
      -- the input would be on the stack, below itself
      have hcycle : w.step g = .cycle u.key := by simp [step, hstack, hmark]
      exact absurd (h.cycle hcycle) (not_transGen_self_of_acc u.acc .refl)
  | none =>
    have hnext : Next g w _ := .descend hstack hmark
    obtain ⟨w', hsteps, hbelow, hroots, hplaced⟩ :=
      hplace (h.next hnext) (by rw [Grounded.map_key_inputs]; rfl)
    exact ⟨w', .head hnext hsteps, hbelow, hroots, hplaced.trans (h.visit_of_unmarked hmark).symm⟩

/-- The innermost feature is placed after the inputs that are left have been visited. -/
theorem Traced.goesOn_place (h : w.Traced g requested) (k : Grounded g)
    {pending : List (Grounded g)} {below : List Frame}
    (hstack : w.stack = ⟨k.key, pending.map (·.key)⟩ :: below) :
    GoesOnTo g w below (pending.foldl Grounded.visit w.placed.reverse ++ [k.key]) := by
  induction k using Grounded.induct generalizing w pending below with
  | h k ih =>
  induction pending generalizing w with
  | nil => exact ⟨_, .single (.place hstack), rfl, rfl, List.reverse_cons⟩
  | cons u rest ihrest =>
    have hinput : g.IsInput u.key k.key :=
      h.pending _ (hstack ▸ List.mem_cons_self) u.key List.mem_cons_self
    obtain ⟨v, hsteps, hstack', hroots, hplaced⟩ :=
      h.goesOn_visit hstack fun hv hvstack => ih u hinput hv hvstack
    obtain ⟨w', hsteps', hbelow, hroots', hplaced'⟩ := ihrest (h.steps hsteps) hstack'
    refine ⟨w', hsteps.trans hsteps', hbelow, hroots'.trans hroots, ?_⟩
    rw [hplaced', hplaced, List.foldl_cons]

theorem run_of_steps {keys : List DerivedKey} (hw : w.Within g keys)
    (hsteps : Relation.ReflTransGen (Next g) w w') :
    ∃ hw' : w'.Within g keys, w.run g keys hw = w'.run g keys hw' := by
  induction hsteps with
  | refl => exact ⟨hw, rfl⟩
  | tail _ hnext ih =>
    obtain ⟨hw', hrun⟩ := ih
    exact ⟨_, hrun.trans (run_next hw' (step_of_next hnext))⟩

/-- Between two requested features, the walk goes on to visit those that are left in turn. -/
theorem Traced.run_roots {keys : List DerivedKey} (h : w.Traced g requested)
    (hw : w.Within g keys) (roots : List (Grounded g)) (hstack : w.stack = [])
    (hroots : w.roots = roots.map (·.key)) :
    w.run g keys hw = .ok (roots.foldl Grounded.visit w.placed.reverse) := by
  induction roots generalizing w with
  | nil => exact run_finished hw (by simp [step, hstack, hroots])
  | cons r rest ih =>
    rw [List.foldl_cons]
    cases hmark : w.mark? r.key with
    | some mark =>
      have hnext : Next g w _ := .skip hstack hroots hmark
      cases mark with
      | done =>
        rw [run_next hw (step_of_next hnext), ih (h.next hnext) _ hstack rfl, h.visit_of_done hmark]
      | visiting => simpa [hstack] using (h.visiting _).1 hmark
    | none =>
      have hnext : Next g w _ := .start hstack hroots hmark
      obtain ⟨v, hsteps, hstack', hroots', hplaced⟩ :=
        (h.next hnext).goesOn_place r (by rw [Grounded.map_key_inputs]; rfl)
      have hsteps := hsteps.head hnext
      obtain ⟨hv, hrun⟩ := run_of_steps hw hsteps
      rw [hrun, ih (h.steps hsteps) hv (hstack'.trans hstack) hroots', hplaced,
        h.visit_of_unmarked hmark]
      rfl

end Walk

/-- Where the requested derived features depend on no cycle, their order is their postorder. -/
theorem order_eq_postorder (h : g.IsAcyclicFor requested) :
    g.order requested = .ok (g.postorder requested h) := by
  have hrun := (Walk.traced_start g requested).run_roots (g.within_start requested)
    (requested.attach.map fun k => ⟨k.1, h.acc k.2⟩) rfl (by simp [Walk.start])
  rw [order, hrun]
  rfl

theorem diamond_order_eq_postorder : ∃ h : diamond.IsAcyclicFor [⟨2⟩, ⟨3⟩, ⟨2⟩],
    diamond.order [⟨2⟩, ⟨3⟩, ⟨2⟩] = .ok (diamond.postorder [⟨2⟩, ⟨3⟩, ⟨2⟩] h) ∧
    diamond.postorder [⟨2⟩, ⟨3⟩, ⟨2⟩] h = [⟨0⟩, ⟨2⟩, ⟨1⟩, ⟨3⟩] := by
  have h := isAcyclicFor_of_order order_diamond
  have hpostorder := order_eq_postorder h
  exact ⟨h, hpostorder, Except.ok.inj (hpostorder.symm.trans order_diamond)⟩

end FeatureCatalog.Graph
