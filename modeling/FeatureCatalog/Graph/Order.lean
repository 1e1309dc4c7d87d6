import FeatureCatalog.Graph

/-! The order in which derived features are registered: each after the derived features that it
consumes. The order is found by a depth-first walk that keeps its own stack, so that the walk can be
observed step by step; `Graph.Walk.step_next` says that every step brings the walk nearer to its
end, on graphs with cycles too. -/

namespace FeatureCatalog.Graph

/-- How far the walk is with a derived feature: its inputs are being visited, or it has been
placed. -/
inductive Mark where
  | visiting
  | done
  deriving DecidableEq

/-- A derived feature that is being visited, and its inputs that have not been looked at. -/
structure Frame where
  node : DerivedKey
  pending : List DerivedKey

/-- The state of a walk: the requested features still to start from, the features being visited with
the innermost first, the marks with the latest first, and the features placed, the last one
first. -/
structure Walk where
  roots : List DerivedKey
  stack : List Frame
  marks : List (DerivedKey × Mark)
  placed : List DerivedKey

namespace Walk

/-- The mark of a derived feature, if the walk has come to it. -/
def mark? (w : Walk) (k : DerivedKey) : Option Mark :=
  (w.marks.find? fun e => e.1 = k).map (·.2)

/-- The walk that starts from the requested features. -/
def start (requested : List DerivedKey) : Walk := ⟨requested, [], [], []⟩

/-- Begins to visit a derived feature. -/
def enter (g : Graph) (w : Walk) (k : DerivedKey) : Walk :=
  { w with stack := ⟨k, g.dependencies k⟩ :: w.stack, marks := (k, .visiting) :: w.marks }

end Walk

/-- What a step of a walk leads to. -/
inductive Step where
  | finished
  | cycle (entry : DerivedKey)
  | next (w : Walk)

/-- One step of a walk: starts from the next requested feature if none is being visited; places the
innermost feature if all its inputs have been looked at; and otherwise looks at its next input,
which is visited if it has no mark, and closes a cycle if it is being visited. -/
def Walk.step (g : Graph) (w : Walk) : Step :=
  match w.stack with
  | [] =>
    match w.roots with
    | [] => .finished
    | root :: roots =>
      match w.mark? root with
      | some _ => .next { w with roots }
      | none => .next (Walk.enter g { w with roots } root)
  | ⟨node, []⟩ :: stack =>
    .next { w with stack, marks := (node, .done) :: w.marks, placed := node :: w.placed }
  | ⟨node, input :: pending⟩ :: stack =>
    match w.mark? input with
    | some .done => .next { w with stack := ⟨node, pending⟩ :: stack }
    | some .visiting => .cycle input
    | none => .next (Walk.enter g { w with stack := ⟨node, pending⟩ :: stack } input)

namespace Walk

/-- The keys among `keys` that the walk has not come to. -/
def unmarked (keys : List DerivedKey) (w : Walk) : Nat :=
  keys.countP fun k => (w.mark? k).isNone

/-- What is left to look at without coming to a new feature. -/
def pending (w : Walk) : Nat :=
  w.roots.length + w.stack.foldr (fun f n => f.pending.length + 1 + n) 0

/-- All features that the walk will come to are among `keys`. -/
structure Within (g : Graph) (keys : List DerivedKey) (w : Walk) : Prop where
  roots : ∀ k ∈ w.roots, k ∈ keys
  stack : ∀ f ∈ w.stack, ∀ k ∈ f.pending, k ∈ keys
  dependencies : ∀ k, ∀ u ∈ g.dependencies k, u ∈ keys

/-- The mark of a feature is the latest one it was given. -/
theorem mark?_of_marks {w w' : Walk} {k : DerivedKey} {m : Mark}
    (hw : w'.marks = (k, m) :: w.marks) (j : DerivedKey) :
    w'.mark? j = if k = j then some m else w.mark? j := by
  simp only [mark?, hw, List.find?_cons]
  split <;> simp_all

/-- Marking a feature never adds to the features without a mark. -/
theorem unmarked_le {w w' : Walk} {k : DerivedKey} {m : Mark}
    (hw : w'.marks = (k, m) :: w.marks) (keys : List DerivedKey) :
    w'.unmarked keys ≤ w.unmarked keys := by
  refine List.countP_mono_left fun j _ hj => ?_
  rw [mark?_of_marks hw] at hj
  split at hj
  · simp at hj
  · exact hj

/-- Marking a feature that had no mark leaves fewer of those. -/
theorem unmarked_lt {w w' : Walk} {k : DerivedKey} {m : Mark}
    (hw : w'.marks = (k, m) :: w.marks) (hnone : w.mark? k = none) {keys : List DerivedKey}
    (hk : k ∈ keys) : w'.unmarked keys < w.unmarked keys := by
  induction keys with
  | nil => simp at hk
  | cons j rest ih =>
    have hle := unmarked_le hw rest
    unfold unmarked at hle ih ⊢
    rw [List.countP_cons, List.countP_cons]
    by_cases hjk : k = j
    · subst hjk
      rw [mark?_of_marks hw, if_pos rfl, hnone]
      simp
      omega
    · have hlt := ih ((List.mem_cons.1 hk).resolve_left hjk)
      rw [mark?_of_marks hw, if_neg hjk]
      omega

/-- Entering a feature leads to nothing outside `keys`. -/
theorem Within.enter {g : Graph} {keys : List DerivedKey} {w : Walk} (h : w.Within g keys)
    (k : DerivedKey) : (Walk.enter g w k).Within g keys where
  roots := h.roots
  stack f hf j hj := by
    rcases List.mem_cons.1 hf with rfl | hf
    · exact h.dependencies k j hj
    · exact h.stack f hf j hj
  dependencies := h.dependencies

/-- Every step stays within the keys that the walk can come to, and either comes to a new feature
among them or leaves less to look at. -/
theorem step_next {g : Graph} {keys : List DerivedKey} {w w' : Walk} (h : w.Within g keys)
    (hstep : w.step g = .next w') :
    w'.Within g keys ∧
      (w'.unmarked keys < w.unmarked keys ∨
        w'.unmarked keys ≤ w.unmarked keys ∧ w'.pending < w.pending) := by
  unfold step at hstep
  split at hstep
  · rename_i hstack
    split at hstep
    · simp at hstep
    · rename_i root roots hroots
      have hwithin : ({ w with roots } : Walk).Within g keys :=
        ⟨fun k hk => h.roots k (hroots ▸ List.mem_cons_of_mem _ hk), h.stack, h.dependencies⟩
      split at hstep
      · obtain rfl := Step.next.inj hstep
        refine ⟨hwithin, .inr ⟨Nat.le_refl _, ?_⟩⟩
        simp [pending, hroots]
      · rename_i hmark
        obtain rfl := Step.next.inj hstep
        refine ⟨hwithin.enter root, .inl ?_⟩
        exact unmarked_lt (w := w) rfl hmark (h.roots root (hroots ▸ List.mem_cons_self))
  · rename_i node stack hstack
    obtain rfl := Step.next.inj hstep
    refine ⟨⟨h.roots, fun f hf => h.stack f (hstack ▸ List.mem_cons_of_mem _ hf), h.dependencies⟩,
      .inr ⟨unmarked_le (w := w) rfl keys, ?_⟩⟩
    simp [pending, hstack]
  · rename_i node input rest stack hstack
    have hwithin : ({ w with stack := ⟨node, rest⟩ :: stack } : Walk).Within g keys := by
      refine ⟨h.roots, fun f hf k hk => ?_, h.dependencies⟩
      rcases List.mem_cons.1 hf with rfl | hf
      · exact h.stack _ (hstack ▸ List.mem_cons_self) k (List.mem_cons_of_mem _ hk)
      · exact h.stack f (hstack ▸ List.mem_cons_of_mem _ hf) k hk
    split at hstep
    · obtain rfl := Step.next.inj hstep
      refine ⟨hwithin, .inr ⟨Nat.le_refl _, ?_⟩⟩
      simp [pending, hstack]
    · simp at hstep
    · rename_i hmark
      obtain rfl := Step.next.inj hstep
      refine ⟨hwithin.enter input, .inl ?_⟩
      exact unmarked_lt (w := w) rfl hmark
        (h.stack _ (hstack ▸ List.mem_cons_self) input List.mem_cons_self)

/-- Takes steps until the walk has ended: with the derived features in order, or with a feature on a
cycle. -/
def run (g : Graph) (keys : List DerivedKey) (w : Walk) (h : w.Within g keys) :
    Except DerivedKey (List DerivedKey) :=
  match hstep : w.step g with
  | .finished => .ok w.placed.reverse
  | .cycle entry => .error entry
  | .next w' => run g keys w' (step_next h hstep).1
termination_by (w.unmarked keys, w.pending)
decreasing_by
  rcases (step_next h hstep).2 with hlt | ⟨hle, hlt⟩
  · exact Prod.Lex.left _ _ hlt
  · rcases Nat.lt_or_eq_of_le hle with hlt' | heq
    · exact Prod.Lex.left _ _ hlt'
    · rw [heq]
      exact Prod.Lex.right _ hlt

end Walk

/-- The derived features that a walk from the requested ones can come to. -/
def reachable (g : Graph) (requested : List DerivedKey) : List DerivedKey :=
  requested ++ g.derived.flatMap (·.derivedInputs)

theorem dependencies_subset_reachable (g : Graph) (requested : List DerivedKey)
    (k u : DerivedKey) (hu : u ∈ g.dependencies k) : u ∈ g.reachable requested := by
  refine List.mem_append_right _ (List.mem_flatMap.2 ⟨g.derivedFeature k, ?_, hu⟩)
  unfold dependencies derivedFeature at *
  by_cases hk : k.index < g.derived.length
  · simp [List.getD_eq_getElem?_getD, hk]
  · simp [List.getD_eq_getElem?_getD, hk] at hu
    cases hu

theorem within_start (g : Graph) (requested : List DerivedKey) :
    (Walk.start requested).Within g (g.reachable requested) where
  roots _ hk := List.mem_append_left _ hk
  stack := by simp [Walk.start]
  dependencies := g.dependencies_subset_reachable requested

/-- The requested derived features and all that they consume, directly or not, each after those that
it consumes. The requested features are taken in the given order and inputs in the order of
declaration. -/
def order (g : Graph) (requested : List DerivedKey) : Except CatalogError (List DerivedKey) :=
  match (Walk.start requested).run g (g.reachable requested) (g.within_start requested) with
  | .ok keys => .ok keys
  | .error entry => .error (.cyclicDependency (g.derivedFeature entry).name)

end FeatureCatalog.Graph
