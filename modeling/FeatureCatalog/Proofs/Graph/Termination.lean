import FeatureCatalog.Proofs.Graph.Order

/-! The walk over derived features ends on every graph. It pushes no feature on its stack twice, and
every step takes up a request, pops the innermost feature for good, or looks at one more of its
inputs; so the number of steps is bounded by the requests and the inputs of the features that are
pushed. All the while the stack is a path of distinct features, which are those being visited. -/

namespace FeatureCatalog.Graph

variable {g : Graph} {requested : List DerivedKey}

/-- The number of inputs that have been looked at. -/
def Frame.cursor (g : Graph) (f : Frame) : Nat :=
  (g.dependencies f.node).length - f.pending.length

namespace Walk

variable {w w' : Walk} {course : List Walk}

/-! ### Cursors -/

/-- The inputs to be looked at are the last ones of the feature, for all features on the stack. -/
def Aligned (g : Graph) (w : Walk) : Prop :=
  ∀ f ∈ w.stack, f.pending <:+ g.dependencies f.node

theorem Aligned.next (h : w.Aligned g) (hnext : Next g w w') : w'.Aligned g := by
  unfold Aligned at h ⊢
  cases hnext with
  | skip hstack => simp [hstack]
  | start hstack => simp [enter, hstack]
  | place hstack =>
    rw [hstack] at h
    exact (List.forall_mem_cons.1 h).2
  | pass hstack =>
    rw [hstack] at h
    obtain ⟨hhead, hbelow⟩ := List.forall_mem_cons.1 h
    exact List.forall_mem_cons.2 ⟨(List.suffix_cons _ _).trans hhead, hbelow⟩
  | descend hstack =>
    rw [hstack] at h
    obtain ⟨hhead, hbelow⟩ := List.forall_mem_cons.1 h
    refine List.forall_mem_cons.2 ⟨List.suffix_refl _, ?_⟩
    exact List.forall_mem_cons.2 ⟨(List.suffix_cons _ _).trans hhead, hbelow⟩

/-- The next input to be looked at is the one at the cursor. -/
theorem Aligned.getElem?_cursor (h : w.Aligned g) {node input : DerivedKey}
    {pending : List DerivedKey} {below : List Frame}
    (hstack : w.stack = ⟨node, input :: pending⟩ :: below) :
    (g.dependencies node)[Frame.cursor g ⟨node, input :: pending⟩]? = some input ∧
      Frame.cursor g ⟨node, pending⟩ = Frame.cursor g ⟨node, input :: pending⟩ + 1 := by
  obtain ⟨looked, hlooked⟩ := h ⟨node, input :: pending⟩ (hstack ▸ List.mem_cons_self)
  dsimp only at hlooked
  have hcursor : Frame.cursor g ⟨node, input :: pending⟩ = looked.length := by
    simp [Frame.cursor, ← hlooked]
  constructor
  · rw [hcursor, ← hlooked]
    simp
  · rw [hcursor]
    simp only [Frame.cursor, ← hlooked, List.length_append, List.length_cons]
    omega

/-- What the loop does in one go: it takes up the next request while nothing is being visited; or it
pops the innermost feature, all of whose inputs have been looked at; or it advances the cursor of
the innermost feature by one, and may push the input that stands there. -/
inductive Iterates (g : Graph) (w w' : Walk) : Prop
  | takesUp {root} : w.stack = [] → w.roots = root :: w'.roots →
      (w'.stack = [] ∨ w'.stack = [⟨root, g.dependencies root⟩]) → Iterates g w w'
  | pops {f} : w.stack = f :: w'.stack → f.cursor g = (g.dependencies f.node).length →
      w'.mark? f.node = some .done → w'.roots = w.roots → Iterates g w w'
  | advances {f f' below input} : w.stack = f :: below →
      (w'.stack = f' :: below ∨ w'.stack = ⟨input, g.dependencies input⟩ :: f' :: below) →
      f'.node = f.node → (g.dependencies f.node)[f.cursor g]? = some input →
      f'.cursor g = f.cursor g + 1 → w'.roots = w.roots → Iterates g w w'

theorem Aligned.iterates (h : w.Aligned g) (hnext : Next g w w') : Iterates g w w' := by
  cases hnext with
  | skip hstack hroots => exact .takesUp hstack hroots (.inl hstack)
  | start hstack hroots => exact .takesUp hstack hroots (.inr (by simp [enter, hstack]))
  | place hstack =>
    refine .pops hstack (by simp [Frame.cursor]) ?_ rfl
    rw [mark?_of_marks (w := w) rfl, if_pos rfl]
  | pass hstack =>
    obtain ⟨hinput, hcursor⟩ := h.getElem?_cursor hstack
    exact .advances hstack (.inl rfl) rfl hinput hcursor rfl
  | descend hstack =>
    obtain ⟨hinput, hcursor⟩ := h.getElem?_cursor hstack
    exact .advances hstack (.inr rfl) rfl hinput hcursor rfl

/-! ### Marks -/

/-- A feature that has been popped remains so. -/
theorem mark?_next_eq_done (hnext : Next g w w') {k : DerivedKey} (hk : w.mark? k = some .done) :
    w'.mark? k = some .done := by
  cases hnext with
  | skip | pass => exact hk
  | place =>
    rw [mark?_of_marks (w := w) rfl]
    split
    · rfl
    · exact hk
  | start _ _ hmark | descend _ hmark =>
    rw [mark?_of_marks (w := w) rfl, if_neg (by rintro rfl; simp [hmark] at hk)]
    exact hk

theorem mark?_next_ne_none (hnext : Next g w w') {k : DerivedKey} (hk : w.mark? k ≠ none) :
    w'.mark? k ≠ none := by
  cases hnext with
  | skip | pass => exact hk
  | place | start | descend =>
    rw [mark?_of_marks (w := w) rfl]
    split
    · simp
    · exact hk

/-- The features that have been popped in the one state have been in the other. -/
def KeepsDone (w w' : Walk) : Prop :=
  ∀ k, w.mark? k = some .done → w'.mark? k = some .done

instance : Trans KeepsDone KeepsDone KeepsDone where
  trans h h' k hk := h' k (h k hk)

theorem pairwise_keepsDone (h : course.IsChain (Next g)) : course.Pairwise KeepsDone :=
  List.isChain_iff_pairwise.1 (h.imp fun _ _ hnext _ => mark?_next_eq_done hnext)

/-! ### Pushes -/

/-- The derived feature that a step pushes on the stack, if it pushes one. -/
def pushed? (w w' : Walk) : Option DerivedKey :=
  if w.stack.length < w'.stack.length then w'.stack.head?.map (·.node) else none

/-- The derived features that are pushed on the stack while the walk goes through the given states,
in turn. -/
def pushes : List Walk → List DerivedKey
  | w :: w' :: rest => (pushed? w w').toList ++ pushes (w' :: rest)
  | _ => []

/-- A step leaves less to look at, or it pushes a feature that had no mark, with its inputs. -/
theorem push_cases (hnext : Next g w w') :
    pushed? w w' = none ∧ w'.pending + 1 = w.pending ∨
    ∃ k, pushed? w w' = some k ∧ w.mark? k = none ∧ w'.mark? k ≠ none ∧
      w'.pending = w.pending + (g.dependencies k).length := by
  cases hnext with
  | skip hstack hroots => exact .inl (by simp [pushed?, pending, hstack, hroots])
  | place hstack | pass hstack =>
    refine .inl ⟨by simp [pushed?, hstack], ?_⟩
    simp [pending, hstack]
    omega
  | @start root _ hstack hroots hmark =>
    refine .inr ⟨root, by simp [pushed?, enter, hstack], hmark, by simp [mark?_enter], ?_⟩
    simp [pending, enter, hstack, hroots]
    omega
  | @descend _ input _ _ hstack hmark =>
    refine .inr ⟨input, by simp [pushed?, enter, hstack], hmark, by simp [mark?_enter], ?_⟩
    simp [pending, enter, hstack]
    omega

/-- What a walk pushes had no mark when it set out. -/
theorem mark?_of_mem_pushes (h : (w :: course).IsChain (Next g)) :
    ∀ k ∈ pushes (w :: course), w.mark? k = none := by
  induction course generalizing w with
  | nil => exact nofun
  | cons w' rest ih =>
    obtain ⟨hnext, hrest⟩ := List.isChain_cons_cons.1 h
    intro k hk
    rcases List.mem_append.1 hk with hk | hk
    · rcases push_cases hnext with ⟨hnone, -⟩ | ⟨j, hj, hmark, -⟩
      · simp [hnone] at hk
      · rw [hj, Option.toList_some, List.mem_singleton] at hk
        exact hk ▸ hmark
    · by_contra hmark
      exact mark?_next_ne_none hnext hmark (ih hrest k hk)

/-- No derived feature is pushed twice. -/
theorem nodup_pushes (h : (w :: course).IsChain (Next g)) : (pushes (w :: course)).Nodup := by
  induction course generalizing w with
  | nil => exact List.nodup_nil
  | cons w' rest ih =>
    obtain ⟨hnext, hrest⟩ := List.isChain_cons_cons.1 h
    rw [pushes]
    rcases push_cases hnext with ⟨hnone, -⟩ | ⟨k, hk, -, hmark, -⟩
    · simpa [hnone] using ih hrest
    · rw [hk, Option.toList_some, List.singleton_append, List.nodup_cons]
      exact ⟨fun hmem => hmark (mark?_of_mem_pushes hrest k hmem), ih hrest⟩

/-- Each step is paid for by what there was to look at, by a feature that is pushed, or by an input
of such a feature. -/
theorem length_le_of_isChain (h : (w :: course).IsChain (Next g)) :
    course.length ≤
      w.pending + ((pushes (w :: course)).flatMap fun k => k :: g.dependencies k).length := by
  induction course generalizing w with
  | nil => exact Nat.zero_le _
  | cons w' rest ih =>
    obtain ⟨hnext, hrest⟩ := List.isChain_cons_cons.1 h
    have hle := ih hrest
    rw [pushes, List.length_cons, List.flatMap_append, List.length_append]
    rcases push_cases hnext with ⟨hnone, hpending⟩ | ⟨k, hk, -, -, hpending⟩
    · omega
    · rw [hk, Option.toList_some, List.flatMap_singleton, List.length_cons]
      omega

/-! ### Courses -/

/-- A walk goes through finitely many states, to one where it has finished or reports a cycle. -/
theorem exists_course {keys : List DerivedKey} (hw : w.Within g keys) :
    ∃ course last, (w :: course).IsChain (fun w w' => w.step g = .next w') ∧
      (w :: course).getLast? = some last ∧
      (last.step g = .finished ∧ w.run g keys hw = .ok last.placed.reverse ∨
        ∃ entry, last.step g = .cycle entry ∧ w.run g keys hw = .error entry) := by
  induction w, hw using run.induct g keys with
  | case1 w hw hstep =>
    exact ⟨[], w, .singleton w, rfl, .inl ⟨hstep, run_finished hw hstep⟩⟩
  | case2 w hw entry hstep =>
    exact ⟨[], w, .singleton w, rfl, .inr ⟨entry, hstep, run_cycle hw hstep⟩⟩
  | case3 w hw w' hstep ih =>
    obtain ⟨course, last, hcourse, hlast, hend⟩ := ih
    refine ⟨w' :: course, last, hcourse.cons_cons hstep, ?_, ?_⟩
    · rwa [List.getLast?_cons_cons]
    · rwa [run_next hw hstep]

/-- All states of the walk from the requested features: each one follows from the one before it, and
the last one tells the order, or the input that closes a cycle. -/
structure IsCourse (g : Graph) (requested : List DerivedKey) (course : List Walk) : Prop where
  head : course.head? = some (Walk.start requested)
  steps : course.IsChain fun w w' => w.step g = .next w'
  last : ∃ last, course.getLast? = some last ∧
    (last.step g = .finished ∧ g.order requested = .ok last.placed.reverse ∨
      ∃ f below entry, last.step g = .cycle entry ∧ last.stack = f :: below ∧
        (g.dependencies f.node)[f.cursor g]? = some entry ∧
        g.order requested = .error (.cyclicDependency (g.derivedFeature entry).name))

/-- The stack is a path of distinct features, each an input of the one below it, and they are the
features that are being visited. -/
structure IsPath (g : Graph) (w : Walk) : Prop where
  nodup : (w.stack.map (·.node)).Nodup
  visiting : ∀ k, k ∈ w.stack.map (·.node) ↔ w.mark? k = some .visiting
  inputs : (w.stack.map (·.node)).IsChain g.IsInput

theorem Traced.isPath (h : w.Traced g requested) : w.IsPath g :=
  ⟨h.nodup_stack, fun k => (h.visiting k).symm, h.path⟩

end Walk

/-- Whatever the graph and the requests are, the walk ends: it goes through finitely many states. No
feature is pushed twice, and one that has been popped is never visited again; each step takes up a
request, pops a feature or advances a cursor, which bounds their number; and the stack is a path at
all times. -/
theorem order_terminates (g : Graph) (requested : List DerivedKey) :
    ∃ course, Walk.IsCourse g requested course ∧
      (Walk.pushes course).Nodup ∧
      course.IsChain (Walk.Iterates g) ∧
      course.Pairwise Walk.KeepsDone ∧
      course.length ≤ requested.length +
        ((Walk.pushes course).flatMap fun k => k :: g.dependencies k).length + 1 ∧
      ∀ w ∈ course, w.IsPath g := by
  obtain ⟨later, last, hsteps, hlast, hend⟩ := Walk.exists_course (g.within_start requested)
  have hchain := hsteps.imp fun _ _ => Walk.next_of_step
  have hinvariant : ∀ w ∈ Walk.start requested :: later, w.Traced g requested ∧ w.Aligned g :=
    hchain.induction _ _ (fun _ _ hnext h => ⟨h.1.next hnext, h.2.next hnext⟩)
      fun _ => ⟨Walk.traced_start g requested, nofun⟩
  refine ⟨_, ⟨rfl, hsteps, last, hlast, ?_⟩, Walk.nodup_pushes hchain,
    hchain.imp_of_mem_imp fun w _ hw _ => (hinvariant w hw).2.iterates,
    Walk.pairwise_keepsDone hchain, ?_, fun w hw => (hinvariant w hw).1.isPath⟩
  · rcases hend with ⟨hstep, hrun⟩ | ⟨entry, hstep, hrun⟩
    · exact .inl ⟨hstep, by rw [order, hrun]⟩
    · obtain ⟨node, pending, below, hstack, -⟩ := Walk.cycle_of_step hstep
      have haligned := (hinvariant last (List.mem_of_getLast? hlast)).2
      exact .inr ⟨_, below, entry, hstep, hstack, (haligned.getElem?_cursor hstack).1,
        by rw [order, hrun]⟩
  · have hpending : (Walk.start requested).pending = requested.length := rfl
    have hle := Walk.length_le_of_isChain hchain
    rw [List.length_cons]
    omega

end FeatureCatalog.Graph
