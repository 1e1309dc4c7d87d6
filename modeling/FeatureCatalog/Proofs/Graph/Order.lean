import FeatureCatalog.Graph.Order
import Mathlib.Data.List.Chain
import Mathlib.Data.List.Nodup
import Mathlib.Logic.Relation
import Mathlib.Order.WellFounded

/-! What the walk over derived features finds. Its stack is a path of inputs, so a cycle that it
reports is one; and what it has placed is closed under inputs, so an order that it returns has every
feature after the features that it consumes. -/

namespace FeatureCatalog.Graph

/-- The first derived feature is an input of the second. -/
def IsInput (g : Graph) (u k : DerivedKey) : Prop := u ∈ g.dependencies k

namespace Walk

variable {g : Graph} {w w' : Walk}

/-- The ways in which a walk goes on. -/
inductive Next (g : Graph) (w : Walk) : Walk → Prop
  | skip {root roots mark} : w.stack = [] → w.roots = root :: roots → w.mark? root = some mark →
      Next g w { w with roots }
  | start {root roots} : w.stack = [] → w.roots = root :: roots → w.mark? root = none →
      Next g w (enter g { w with roots } root)
  | place {node stack} : w.stack = ⟨node, []⟩ :: stack →
      Next g w { w with stack, marks := (node, .done) :: w.marks, placed := node :: w.placed }
  | pass {node input pending stack} : w.stack = ⟨node, input :: pending⟩ :: stack →
      w.mark? input = some .done → Next g w { w with stack := ⟨node, pending⟩ :: stack }
  | descend {node input pending stack} : w.stack = ⟨node, input :: pending⟩ :: stack →
      w.mark? input = none →
      Next g w (enter g { w with stack := ⟨node, pending⟩ :: stack } input)

theorem next_of_step (h : w.step g = .next w') : Next g w w' := by
  unfold step at h
  split at h
  · rename_i hstack
    split at h
    · simp at h
    · rename_i root roots hroots
      split at h
      · rename_i hmark
        obtain rfl := Step.next.inj h
        exact .skip hstack hroots hmark
      · rename_i hmark
        obtain rfl := Step.next.inj h
        exact .start hstack hroots hmark
  · rename_i node stack hstack
    obtain rfl := Step.next.inj h
    exact .place hstack
  · rename_i node input pending stack hstack
    split at h
    · rename_i hmark
      obtain rfl := Step.next.inj h
      exact .pass hstack hmark
    · simp at h
    · rename_i hmark
      obtain rfl := Step.next.inj h
      exact .descend hstack hmark

theorem cycle_of_step {entry : DerivedKey} (h : w.step g = .cycle entry) :
    ∃ node pending stack, w.stack = ⟨node, entry :: pending⟩ :: stack ∧
      w.mark? entry = some .visiting := by
  unfold step at h
  split at h
  · split at h
    · simp at h
    · split at h <;> simp at h
  · simp at h
  · rename_i node input pending stack hstack
    split at h
    · simp at h
    · rename_i hmark
      obtain rfl := Step.cycle.inj h
      exact ⟨node, pending, stack, hstack, hmark⟩
    · simp at h

theorem finished_of_step (h : w.step g = .finished) : w.stack = [] ∧ w.roots = [] := by
  unfold step at h
  split at h
  · rename_i hstack
    split at h
    · rename_i hroots
      exact ⟨hstack, hroots⟩
    · split at h <;> simp at h
  · simp at h
  · split at h <;> simp at h

/-- Every input of a feature on the stack is still to be looked at, or has been placed, or is the
feature above it on the stack, `inner`. -/
def Looked (g : Graph) (placed : List DerivedKey) : Option DerivedKey → List Frame → Prop
  | _, [] => True
  | inner, f :: below =>
    (∀ u ∈ g.dependencies f.node, u ∈ f.pending ∨ u ∈ placed ∨ inner = some u) ∧
      Looked g placed (some f.node) below

/-- What holds throughout a walk from the requested features. -/
structure Traced (g : Graph) (requested : List DerivedKey) (w : Walk) : Prop where
  visiting : ∀ k, w.mark? k = some .visiting ↔ k ∈ w.stack.map (·.node)
  done : ∀ k, w.mark? k = some .done ↔ k ∈ w.placed
  nodup_stack : (w.stack.map (·.node)).Nodup
  nodup_placed : w.placed.Nodup
  path : (w.stack.map (·.node)).IsChain g.IsInput
  pending : ∀ f ∈ w.stack, ∀ u ∈ f.pending, g.IsInput u f.node
  looked : Looked g w.placed none w.stack
  closed : ∀ later k earlier, w.placed = later ++ k :: earlier →
    ∀ u ∈ g.dependencies k, u ∈ earlier
  requested : ∀ k ∈ requested, k ∈ w.roots ∨ w.mark? k ≠ none

theorem traced_start (g : Graph) (requested : List DerivedKey) :
    (Walk.start requested).Traced g requested where
  visiting := by simp [Walk.start, mark?]
  done := by simp [Walk.start, mark?]
  nodup_stack := List.nodup_nil
  nodup_placed := List.nodup_nil
  path := by simp [Walk.start]
  pending := by simp [Walk.start]
  looked := trivial
  closed := by simp [Walk.start]
  requested _ hk := .inl hk

theorem mark?_enter (k j : DerivedKey) :
    (enter g w k).mark? j = if k = j then some .visiting else w.mark? j :=
  mark?_of_marks rfl j

theorem Looked.descend {placed : List DerivedKey} {node input : DerivedKey}
    {pending : List DerivedKey} {below : List Frame}
    (h : Looked g placed none (⟨node, input :: pending⟩ :: below)) :
    Looked g placed (some input) (⟨node, pending⟩ :: below) := by
  refine ⟨fun u hu => ?_, h.2⟩
  rcases h.1 u hu with hpending | hplaced | hinner
  · rcases List.mem_cons.1 hpending with rfl | hpending
    · exact .inr (.inr rfl)
    · exact .inl hpending
  · exact .inr (.inl hplaced)
  · exact absurd hinner (by simp)

/-- Placing the feature above the stack settles the input that it was. -/
theorem Looked.place {placed : List DerivedKey} {node : DerivedKey} {stack : List Frame}
    (h : Looked g placed (some node) stack) : Looked g (node :: placed) none stack := by
  have hmono : ∀ {inner stack}, Looked g placed inner stack →
      Looked g (node :: placed) inner stack := by
    intro inner stack
    induction stack generalizing inner with
    | nil => exact fun _ => trivial
    | cons f below ih =>
      exact fun h => ⟨fun u hu => (h.1 u hu).imp_right
        (.imp_left (List.mem_cons_of_mem _)), ih h.2⟩
  cases stack with
  | nil => trivial
  | cons f below =>
    refine ⟨fun u hu => ?_, hmono h.2⟩
    rcases h.1 u hu with hpending | hplaced | hinner
    · exact .inl hpending
    · exact .inr (.inl (List.mem_cons_of_mem _ hplaced))
    · exact .inr (.inl (Option.some.inj hinner ▸ List.mem_cons_self))

/-- Entering a feature, a requested one or an input of the innermost one, which has just been taken
from what was to be looked at. -/
theorem Traced.enter {requested : List DerivedKey} (h : w.Traced g requested) {k : DerivedKey}
    (hk : w.mark? k = none) (stack : List Frame) (roots : List DerivedKey)
    (hnodes : stack.map (·.node) = w.stack.map (·.node))
    (hpending : ∀ f ∈ stack, ∀ u ∈ f.pending, g.IsInput u f.node)
    (hinput : ∀ node ∈ (stack.map (·.node)).head?, g.IsInput k node)
    (hlooked : Looked g w.placed (some k) stack) (hroots : ∀ j ∈ w.roots, j = k ∨ j ∈ roots) :
    (enter g { w with stack, roots } k).Traced g requested := by
  have hmark : ∀ j, (Walk.enter g { w with stack, roots } k).mark? j =
      if k = j then some .visiting else w.mark? j :=
    fun j => mark?_enter (w := { w with stack, roots }) k j
  exact {
    visiting := fun j => by
      rw [hmark]
      by_cases hkj : k = j
      · simp [hkj, Walk.enter]
      · rw [if_neg hkj, h.visiting, ← hnodes]
        simp [Walk.enter, Ne.symm hkj]
    done := fun j => by
      rw [hmark]
      split
      · rename_i hkj
        subst hkj
        simp [Walk.enter, ← h.done, hk]
      · exact h.done j
    nodup_stack := by
      refine List.nodup_cons.2 ⟨fun hmem => ?_, hnodes ▸ h.nodup_stack⟩
      rw [hnodes] at hmem
      rw [(h.visiting k).2 hmem] at hk
      simp at hk
    nodup_placed := h.nodup_placed
    path := List.isChain_cons.2 ⟨hinput, hnodes ▸ h.path⟩
    pending := fun f hf u hu => by
      rcases List.mem_cons.1 hf with rfl | hf
      · exact hu
      · exact hpending f hf u hu
    looked := ⟨fun u hu => .inl hu, hlooked⟩
    closed := h.closed
    requested := fun j hj => by
      rw [hmark]
      split
      · exact .inr (by simp)
      · rename_i hkj
        exact (h.requested j hj).imp_left fun hin => (hroots j hin).resolve_left (Ne.symm hkj) }

theorem Traced.pass {requested : List DerivedKey} (h : w.Traced g requested) {node : DerivedKey}
    {input : DerivedKey} {pending : List DerivedKey} {stack : List Frame}
    (hstack : w.stack = ⟨node, input :: pending⟩ :: stack) (hmark : w.mark? input = some .done) :
    ({ w with stack := ⟨node, pending⟩ :: stack } : Walk).Traced g requested := by
  have hnodes : (⟨node, pending⟩ :: stack : List Frame).map (·.node) = w.stack.map (·.node) := by
    rw [hstack]
    rfl
  have hlooked := h.looked
  rw [hstack] at hlooked
  refine { h with
    visiting := fun k => by rw [hnodes]; exact h.visiting k
    nodup_stack := by rw [hnodes]; exact h.nodup_stack
    path := by rw [hnodes]; exact h.path
    pending := fun f hf u hu => ?_
    looked := ⟨fun u hu => ?_, hlooked.2⟩ }
  · rcases List.mem_cons.1 hf with rfl | hf
    · exact h.pending ⟨node, input :: pending⟩ (hstack ▸ List.mem_cons_self) u
        (List.mem_cons_of_mem _ hu)
    · exact h.pending f (hstack ▸ List.mem_cons_of_mem _ hf) u hu
  · rcases hlooked.1 u hu with hpending | hplaced
    · rcases List.mem_cons.1 hpending with rfl | hpending
      · exact .inr (.inl ((h.done u).1 hmark))
      · exact .inl hpending
    · exact .inr hplaced

theorem Traced.place {requested : List DerivedKey} (h : w.Traced g requested) {node : DerivedKey}
    {stack : List Frame} (hstack : w.stack = ⟨node, []⟩ :: stack) :
    ({ w with
        stack
        marks := (node, .done) :: w.marks
        placed := node :: w.placed } : Walk).Traced g requested := by
  have hnodup := h.nodup_stack
  have hlooked := h.looked
  rw [hstack] at hnodup hlooked
  obtain ⟨hnode, hnodup⟩ := List.nodup_cons.1 hnodup
  have hmark : ∀ j, mark? { w with
      stack
      marks := (node, .done) :: w.marks
      placed := node :: w.placed } j = if node = j then some .done else w.mark? j :=
    mark?_of_marks rfl
  have hvisiting : ∀ k, w.mark? k = some .visiting ↔ k = node ∨ k ∈ stack.map (·.node) := by
    intro k
    rw [h.visiting, hstack, List.map_cons, List.mem_cons]
  exact {
    visiting := fun k => by
      rw [hmark]
      split
      · rename_i hk
        simp only [hk] at hnode
        simp [hnode]
      · rename_i hk
        rw [hvisiting]
        exact or_iff_right (Ne.symm hk)
    done := fun k => by
      rw [hmark]
      split
      · rename_i hk
        simp [hk]
      · rename_i hk
        simp [h.done, Ne.symm hk]
    nodup_stack := hnodup
    nodup_placed := by
      refine List.nodup_cons.2 ⟨fun hmem => ?_, h.nodup_placed⟩
      have hdone := (h.done node).2 hmem
      rw [(hvisiting node).2 (.inl rfl)] at hdone
      simp at hdone
    path := by
      have := h.path
      rw [hstack] at this
      exact (List.isChain_cons.1 this).2
    pending := fun f hf => h.pending f (hstack ▸ List.mem_cons_of_mem _ hf)
    looked := hlooked.2.place
    closed := by
      intro later k earlier heq u hu
      cases later with
      | nil =>
        obtain ⟨rfl, rfl⟩ := List.cons.inj heq
        rcases hlooked.1 u hu with hpending | hplaced | hinner
        · exact absurd hpending List.not_mem_nil
        · exact hplaced
        · exact absurd hinner (by simp)
      | cons _ later => exact h.closed later k earlier (List.cons.inj heq).2 u hu
    requested := fun k hk => by
      rw [hmark]
      split
      · exact .inr (by simp)
      · exact h.requested k hk }

/-- A walk that goes on keeps its trace. -/
theorem Traced.next {requested : List DerivedKey} (h : w.Traced g requested)
    (hnext : Next g w w') : w'.Traced g requested := by
  cases hnext with
  | @skip root roots mark hstack hroots hmark =>
    refine { h with requested := fun k hk => ?_ }
    rcases h.requested k hk with hk | hk
    · rw [hroots] at hk
      rcases List.mem_cons.1 hk with rfl | hk
      · have hmark' : ({ w with roots } : Walk).mark? k = some mark := hmark
        exact .inr (by simp [hmark'])
      · exact .inl hk
    · exact .inr hk
  | @start root roots hstack hroots hmark =>
    refine h.enter hmark w.stack roots rfl h.pending (by simp [hstack])
      (by rw [hstack]; trivial) fun j hj => ?_
    exact List.mem_cons.1 (hroots ▸ hj)
  | place hstack => exact h.place hstack
  | pass hstack hmark => exact h.pass hstack hmark
  | @descend node input pending stack hstack hmark =>
    have hlooked := h.looked
    have hpending := h.pending
    rw [hstack] at hlooked hpending
    obtain ⟨hhead, hbelow⟩ := List.forall_mem_cons.1 hpending
    refine h.enter hmark (⟨node, pending⟩ :: stack) w.roots (by rw [hstack]; rfl) ?_ ?_
      hlooked.descend fun j hj => .inr hj
    · exact List.forall_mem_cons.2 ⟨fun u hu => hhead u (List.mem_cons_of_mem _ hu), hbelow⟩
    · intro top htop
      obtain rfl := Option.some.inj htop
      exact hhead input List.mem_cons_self

/-- A cycle that a walk reports is one. -/
theorem Traced.cycle {requested : List DerivedKey} (h : w.Traced g requested)
    {entry : DerivedKey} (hstep : w.step g = .cycle entry) :
    Relation.TransGen g.IsInput entry entry := by
  obtain ⟨node, pending, stack, hstack, hmark⟩ := cycle_of_step hstep
  have hinput : g.IsInput entry node :=
    h.pending _ (hstack ▸ List.mem_cons_self) entry List.mem_cons_self
  have hmem : entry ∈ node :: stack.map (·.node) := by
    have := (h.visiting entry).1 hmark
    rwa [hstack] at this
  have hpath := h.path
  rw [hstack, List.map_cons] at hpath
  have hreach : Relation.ReflTransGen g.IsInput node entry := by
    rcases List.mem_cons.1 hmem with rfl | hmem
    · exact .refl
    · exact hpath.cons_induction (Relation.ReflTransGen g.IsInput node) _
        (fun _ _ hxy hx => hx.tail hxy) .refl entry hmem
  exact .head' hinput hreach

/-- What an order of derived features is: no feature occurs twice, all that are requested are there,
and each comes after those that it consumes. -/
structure IsOrder (g : Graph) (requested keys : List DerivedKey) : Prop where
  nodup : keys.Nodup
  requested : ∀ k ∈ requested, k ∈ keys
  after : ∀ before k later, keys = before ++ k :: later → ∀ u ∈ g.dependencies k, u ∈ before

/-- A walk that has finished has placed the features in order. -/
theorem Traced.isOrder {requested : List DerivedKey} (h : w.Traced g requested)
    (hstep : w.step g = .finished) : IsOrder g requested w.placed.reverse where
  nodup := List.nodup_reverse.2 h.nodup_placed
  requested k hk := by
    obtain ⟨hstack, hroots⟩ := finished_of_step hstep
    rw [List.mem_reverse, ← h.done]
    rcases h.requested k hk with hin | hmarked
    · simp [hroots] at hin
    · obtain ⟨mark, hmark⟩ := Option.ne_none_iff_exists'.1 hmarked
      cases mark with
      | done => exact hmark
      | visiting =>
        rw [h.visiting, hstack] at hmark
        simp at hmark
  after before k later heq u hu := by
    have heq' : w.placed = later.reverse ++ k :: before.reverse := by
      have := congrArg List.reverse heq
      simpa using this
    exact List.mem_reverse.1 (h.closed _ k _ heq' u hu)

section Run

variable {keys : List DerivedKey} (hw : w.Within g keys)

theorem run_finished (h : w.step g = .finished) : w.run g keys hw = .ok w.placed.reverse := by
  unfold Walk.run
  split <;> simp_all

theorem run_cycle {entry : DerivedKey} (h : w.step g = .cycle entry) :
    w.run g keys hw = .error entry := by
  unfold Walk.run
  split <;> simp_all

theorem run_next {w' : Walk} (h : w.step g = .next w') :
    w.run g keys hw = w'.run g keys (step_next hw h).1 := by
  conv => lhs; unfold Walk.run
  split
  all_goals
    rename_i heq
    rw [h] at heq
    cases heq
  rfl

end Run

/-- A walk comes to an end, with whatever every step keeps: there it has finished, or it reports a
cycle. -/
theorem exists_last {P : Walk → Prop} {keys : List DerivedKey}
    (hnext : ∀ {w w'}, P w → Next g w w' → P w') (hw : w.Within g keys) (h : P w) :
    ∃ last, P last ∧
      (last.step g = .finished ∧ w.run g keys hw = .ok last.placed.reverse ∨
        ∃ entry, last.step g = .cycle entry ∧ w.run g keys hw = .error entry) := by
  induction w, hw using run.induct g keys with
  | case1 w hw hstep => exact ⟨w, h, .inl ⟨hstep, run_finished hw hstep⟩⟩
  | case2 w hw entry hstep => exact ⟨w, h, .inr ⟨entry, hstep, run_cycle hw hstep⟩⟩
  | case3 w hw w' hstep ih =>
    rw [run_next hw hstep]
    exact ih (hnext h (next_of_step hstep))

/-- A walk to its end finds an order or a cycle. -/
theorem Traced.run {keys requested : List DerivedKey} (hw : w.Within g keys)
    (h : w.Traced g requested) :
    (∃ placed, w.run g keys hw = .ok placed ∧ IsOrder g requested placed) ∨
      ∃ entry, w.run g keys hw = .error entry ∧ Relation.TransGen g.IsInput entry entry := by
  obtain ⟨last, hlast, ⟨hstep, hrun⟩ | ⟨entry, hstep, hrun⟩⟩ := exists_last Traced.next hw h
  · exact .inl ⟨_, hrun, hlast.isOrder hstep⟩
  · exact .inr ⟨entry, hrun, hlast.cycle hstep⟩

theorem run_congr {g' : Graph} (hdependencies : g'.dependencies = g.dependencies)
    {keys keys' : List DerivedKey} (hw : w.Within g keys) (hw' : w.Within g' keys') :
    w.run g' keys' hw' = w.run g keys hw := by
  have hstep' : ∀ w : Walk, w.step g' = w.step g := by
    intro w
    unfold Walk.step enter
    rw [hdependencies]
  induction w, hw using run.induct g keys with
  | case1 w hw hstep => rw [run_finished hw hstep, run_finished hw' ((hstep' w).trans hstep)]
  | case2 w hw entry hstep => rw [run_cycle hw hstep, run_cycle hw' ((hstep' w).trans hstep)]
  | case3 w hw w' hstep ih =>
    rw [run_next hw hstep, run_next hw' ((hstep' w).trans hstep)]
    exact ih _

end Walk

/-- Where no derived feature consumes itself, directly or not, there is an order. -/
theorem exists_order (g : Graph) (hfounded : WellFounded g.IsInput) (requested : List DerivedKey) :
    ∃ keys, g.order requested = .ok keys := by
  have htraced := Walk.traced_start g requested
  rcases htraced.run (g.within_start requested) with ⟨keys, hrun, -⟩ | ⟨entry, -, hcycle⟩
  · refine ⟨keys, ?_⟩
    rw [order, hrun]
  · exact absurd hcycle (hfounded.transGen.irrefl.irrefl entry)

/-- The order of derived features has each after those that it consumes. -/
theorem isOrder_of_order {g : Graph} {requested keys : List DerivedKey}
    (h : g.order requested = .ok keys) : Walk.IsOrder g requested keys := by
  unfold order at h
  rcases (Walk.traced_start g requested).run (g.within_start requested) with
    ⟨keys', hrun, hkeys⟩ | ⟨entry, hrun, -⟩
  · rw [hrun] at h
    exact Except.ok.inj h ▸ hkeys
  · rw [hrun] at h
    simp at h

theorem order_congr {g g' : Graph} (hdependencies : g'.dependencies = g.dependencies)
    {requested keys : List DerivedKey} (h : g.order requested = .ok keys) :
    g'.order requested = .ok keys := by
  unfold order at h ⊢
  rw [Walk.run_congr hdependencies (g.within_start requested)]
  split at h
  · exact h
  · simp at h

end FeatureCatalog.Graph
