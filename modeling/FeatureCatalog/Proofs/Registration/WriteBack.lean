import FeatureCatalog.Proofs.Registration.Checks
import FeatureCatalog.Proofs.Registration.Reached

/-! What a registration writes back to the graph, whatever the session answers: the registration of
each entity whose creation succeeded, and nothing else. -/

namespace FeatureCatalog

namespace Task

variable {g : Graph} {projectId : EntityId} {task : Task} {request : CreateRequest}

theorem idFor_eq_error {user used : String} {registration : Option Registration}
    {e : CatalogError} (h : idFor user used registration = .error e) :
    e = .unresolvedInput user used := by
  cases registration with
  | none => exact (Except.error.inj h).symm
  | some => cases h

theorem inputIds_eq_error {user : String} {inputs : List FeatureRef} {e : CatalogError}
    (h : inputIds g user inputs = .error e) : ∃ used, e = .unresolvedInput user used := by
  induction inputs with
  | nil => cases h
  | cons input rest ih =>
    rcases bind_eq_error.1 h with hid | ⟨id, -, h⟩
    · exact ⟨_, idFor_eq_error hid⟩
    · rcases bind_eq_error.1 h with hrest | ⟨ids, -, h⟩
      · exact ih hrest
      · exact absurd h return_ne_error

/-- A request that cannot be made lacks an id, or the body of a source. -/
theorem request_eq_error {e : CatalogError} (h : task.request g projectId = .error e) :
    (∃ user used, e = .unresolvedInput user used) ∨
      ∃ source key, e = .reservedOption source key := by
  cases task with
  | source k =>
    rcases bind_eq_error.1 h with hbody | ⟨body, -, h⟩
    · obtain ⟨key, -, rfl⟩ := Source.encode_eq_error hbody
      exact .inr ⟨_, key, rfl⟩
    · exact absurd h return_ne_error
  | anchor | feature =>
    rcases bind_eq_error.1 h with hid | ⟨id, -, h⟩
    · exact .inl ⟨_, _, idFor_eq_error hid⟩
    · exact absurd h return_ne_error
  | derived k =>
    rcases bind_eq_error.1 h with hanchored | ⟨anchored, -, h⟩
    · obtain ⟨used, rfl⟩ := inputIds_eq_error hanchored
      exact .inl ⟨_, used, rfl⟩
    rcases bind_eq_error.1 h with hderived | ⟨derived, -, h⟩
    · obtain ⟨used, rfl⟩ := inputIds_eq_error hderived
      exact .inl ⟨_, used, rfl⟩
    · exact absurd h return_ne_error

end Task

theorem Exchange.slot_of_isFor {e : Exchange σ} {own task : Task} (h : e.task? = some own)
    (hfor : e.IsFor task) : own.slot = task.slot := by
  obtain ⟨own', hown', hslot⟩ := hfor
  rwa [Option.some.inj (h.symm.trans hown')]

namespace Registrar

variable {σ : Type} {r : Registrar σ} {g g' : Graph} {state : σ} {projectId : EntityId}
  {es : List (Exchange σ)} {result : Except CatalogError RegistrationSummary × Graph × σ}

/-! ### Moments -/

namespace Moment

variable {own : Task} {request : CreateRequest} (h : r.Moment g g' projectId es own request)
include h

theorem not_isDone_start : own.isDone r.project g = false := by
  obtain ⟨-, hreached, hdone, -, -⟩ := h
  rw [← Bool.not_eq_true] at hdone ⊢
  exact fun hstart => hdone (hreached.onward.isDone hstart)

theorem text?_name : request.body.text? "name" = some (own.name g) := by
  obtain ⟨-, hreached, -, hrequest, -⟩ := h
  rw [(Task.asks_of_request hrequest).text?_name, Task.name_congr hreached.onward.unregistered]

/-- A feature is registered for the first anchor that lists it: another one before it would have
registered the feature already. -/
theorem owningAnchor? {owner : AnchorKey} {k : FeatureKey} (hown : own = .feature owner k)
    (hof : own.IsOf g) : g.owningAnchor? k = some owner := by
  subst hown
  obtain ⟨hplan, hreached, hdone, -, -⟩ := h
  obtain ⟨order, horder, -, -, htasks⟩ := Graph.plan_eq_ok.1 hplan
  have hmem : .feature owner k ∈ g.tasks order := by simp [htasks]
  obtain ⟨howner, hlists⟩ := Graph.mem_tasks.1 hmem
  refine Graph.owningAnchor?_eq_some.2 ⟨howner, hlists, fun b hb hlists' => ?_⟩
  have hb' : b ∈ g.anchorKeys :=
    Graph.mem_anchorKeys.2 (Nat.lt_trans hb (Graph.mem_anchorKeys.1 howner))
  have hearlier := Graph.mem_of_precedes (Graph.isOrder_of_order horder) htasks
    (.feature k hb) (Graph.mem_tasks.2 ⟨hb', hlists'⟩)
  have hdone' := hreached.isDone hearlier hof
  rw [← Task.isDone_slot] at hdone hdone'
  cases hdone'.symm.trans hdone

end Moment

/-! ### Courses -/

namespace Course

theorem onward (h : r.Course g state es result) : g.Onward r.project result.2.1 := by
  cases h with
  | refused | rejected => exact .refl _ _
  | halted _ _ hreached _ => exact hreached.onward

theorem registration? (h : r.Course g state es result) {e : Exchange σ} (he : e ∈ es) {own : Task}
    {id : EntityId} (hown : e.task? = some own) (hid : e.id? = some id) (hof : own.IsOf g) :
    own.registration? result.2.1 = some ⟨id, own.qualifiedName r.project g⟩ := by
  cases h with
  | refused => cases he
  | rejected =>
    obtain rfl := List.mem_singleton.1 he
    cases hown
  | halted _ _ hreached hhalts =>
    rcases List.mem_cons.1 he with rfl | he
    · cases hown
    · rcases List.mem_append.1 he with he | he
      · obtain ⟨own', id', hown', hid', hregistration⟩ := hreached.registration? he
        obtain rfl := Option.some.inj (hown.symm.trans hown')
        obtain rfl := Option.some.inj (hid.symm.trans hid')
        exact hregistration hof
      · rcases hhalts.last_eq with rfl | ⟨_, _, _, _, -, rfl, -, -⟩
        · cases he
        · obtain rfl := List.mem_singleton.1 he
          cases hid

theorem registration?_of_isFor (h : r.Course g state es result) {e : Exchange σ} (he : e ∈ es)
    {task : Task} (hof : task.IsOf g) (hfor : e.IsFor task) {id : EntityId}
    (hid : e.id? = some id) : ∃ own, e.task? = some own ∧ own.slot = task.slot ∧
      task.registration? result.2.1 = some ⟨id, own.qualifiedName r.project g⟩ := by
  obtain ⟨own, hown, hslot⟩ := hfor
  have hof' : own.IsOf g := by rwa [← Task.isOf_slot, hslot, Task.isOf_slot]
  refine ⟨own, hown, hslot, ?_⟩
  rw [← Task.registration?_slot, ← hslot, Task.registration?_slot]
  exact h.registration? he hown hid hof'

theorem registration?_of_not_created (h : r.Course g state es result) {task : Task}
    (hnot : ∀ e ∈ es, e.IsFor task → e.id? = none) :
    task.registration? result.2.1 = task.registration? g := by
  cases h with
  | refused | rejected => rfl
  | halted _ _ hreached _ =>
    refine hreached.registration?_of_not_isFor fun e he hfor => ?_
    obtain ⟨own, id, -, hid, -⟩ := hreached.registration? he
    have hnone := hnot e (List.mem_cons_of_mem _ (List.mem_append_left _ he)) hfor
    rw [hid] at hnone
    cases hnone

theorem pairwise (h : r.Course g state es result) :
    es.Pairwise fun x y => ∀ task : Task, task.IsOf g → x.IsFor task → ¬y.IsFor task := by
  cases h with
  | refused => exact List.Pairwise.nil
  | rejected => exact List.pairwise_singleton _ _
  | halted _ _ hreached hhalts =>
    refine List.pairwise_cons.2 ⟨fun y _ task _ hfor => ?_, ?_⟩
    · obtain ⟨own, hown, -⟩ := hfor
      cases hown
    · rcases hhalts.last_eq with rfl | ⟨own, _, _, _, -, rfl, hdone, -⟩
      · rw [List.append_nil]
        exact hreached.pairwise
      · refine List.pairwise_append.2 ⟨hreached.pairwise, List.pairwise_singleton _ _, ?_⟩
        intro x hx y hy task hof hfor hfor'
        obtain rfl := List.mem_singleton.1 hy
        exact hreached.not_isFor_of_not_isDone hdone hx hof (Exchange.slot_of_isFor rfl hfor') hfor

/-- A run that fails because a creation does ends with that creation, and the ones before have
succeeded. -/
theorem failed (h : r.Course g state es result) {name : String} {cause : TransportError}
    (hfailed : result.1 = .error (.registrationFailed name cause)) :
    ∃ before last, es = before ++ [last] ∧ last.answer = .error cause ∧
      last.name r.project g = name ∧ ∀ e ∈ before, e.id?.isSome := by
  cases h with
  | refused hplan =>
    obtain rfl := Except.error.inj hfailed
    cases Graph.fault_of_plan hplan
  | rejected =>
    obtain ⟨rfl, rfl⟩ := CatalogError.registrationFailed.inj (Except.error.inj hfailed)
    exact ⟨[], _, rfl, rfl, rfl, by simp⟩
  | @halted entity _ _ _ es p _ _ _ _ _ hreached hhalts =>
    cases hhalts with
    | finished => cases hfailed
    | refused _ hrequest =>
      obtain rfl := Except.error.inj hfailed
      rcases Task.request_eq_error hrequest with ⟨_, _, heq⟩ | ⟨_, _, heq⟩ <;> cases heq
    | failed =>
      obtain ⟨rfl, rfl⟩ := CatalogError.registrationFailed.inj (Except.error.inj hfailed)
      refine ⟨⟨none, r.projectRequest, state, .ok entity⟩ :: es, _, rfl, rfl, ?_, ?_⟩
      · exact (Task.name_congr hreached.onward.unregistered _).symm
      · refine List.forall_mem_cons.2 ⟨rfl, fun e he => ?_⟩
        obtain ⟨_, id, -, hid, -⟩ := hreached.registration? he
        exact Option.isSome_iff_exists.2 ⟨id, hid⟩

end Course

theorem exists_moment {e : Exchange σ} (he : e ∈ r.transcript g state) {own : Task}
    (hown : e.task? = some own) :
    ∃ projectId es, r.Moment g (r.register g state).2.1 projectId es own e.request := by
  obtain ⟨before, after, hsplit⟩ := List.append_of_mem he
  rcases moment_of_transcript hsplit with ⟨-, hnone, -⟩ | ⟨own', entity, es, hown', -, hat⟩
  · rw [hnone] at hown
    cases hown
  · obtain rfl := Option.some.inj (hown.symm.trans hown')
    exact ⟨_, _, hat⟩

theorem registration?_register_ne_iff {task : Task} (hof : task.IsOf g) :
    task.registration? (r.register g state).2.1 ≠ task.registration? g ↔
      ∃ e ∈ r.transcript g state, e.IsFor task ∧ e.id?.isSome := by
  have hcourse := r.course g state
  constructor
  · intro hchanged
    by_contra hnot
    apply hchanged
    apply hcourse.registration?_of_not_created
    intro e he hfor
    by_contra hid
    exact hnot ⟨e, he, hfor, Option.isSome_iff_ne_none.2 hid⟩
  · rintro ⟨e, he, hfor, hsome⟩ hsame
    obtain ⟨id, hid⟩ := Option.isSome_iff_exists.1 hsome
    obtain ⟨own, hown, hslot, hregistration⟩ := hcourse.registration?_of_isFor he hof hfor hid
    obtain ⟨_, _, hmoment⟩ := exists_moment he hown
    -- If it had been registered like this before, it would have been done.
    rw [hsame, ← Task.registration?_slot, ← hslot, Task.registration?_slot] at hregistration
    have hdone : own.isDone r.project g = true := Task.isDone_of_qualifiedName hregistration rfl
    cases hdone.symm.trans hmoment.not_isDone_start

/-- A registration writes back exactly what it has created, whatever the session answers and wherever
it fails. Other than registrations, nothing in the graph changes. The registration of an entity has
changed exactly if a creation of it succeeded, and it then is the id given out with the qualified name
in the project, for a feature under the anchor that owns it. Each entity is created once at most, and
not at all if it was registered before, unless it is a context source with another qualified name than
it has in the project. Where a creation fails, it is the last, the error names its entity, and
whatever was created before it is registered. -/
theorem register_notes_created (r : Registrar σ) (g : Graph) (state : σ) :
    r.log g state = (r.transcript g state).map (·.call r.headers) ∧
    (r.register g state).2.1.unregistered = g.unregistered ∧
    (∀ task : Task, task.IsOf g →
      (task.registration? (r.register g state).2.1 ≠ task.registration? g ↔
        ∃ e ∈ r.transcript g state, e.IsFor task ∧ e.id?.isSome)) ∧
    (∀ e ∈ r.transcript g state, ∀ task, e.task? = some task →
      e.request.body.text? "name" = some (task.name g) ∧
      (∀ id, task.IsOf g → e.id? = some id →
        task.registration? (r.register g state).2.1 =
          some ⟨id, task.qualifiedName r.project g⟩) ∧
      (∀ owner k, task.IsOf g → task = .feature owner k → g.owningAnchor? k = some owner) ∧
      ∀ registration, task.registration? g = some registration →
        ∃ k, task = .source k ∧ (g.source k).isContext = true ∧
          registration.qualifiedName ≠ qualifiedName r.project [(g.source k).name]) ∧
    ((r.transcript g state).Pairwise fun x y =>
      ∀ task : Task, task.IsOf g → x.IsFor task → ¬y.IsFor task) ∧
    ∀ name cause, (r.register g state).1 = .error (.registrationFailed name cause) →
      ∃ before last, r.transcript g state = before ++ [last] ∧ last.answer = .error cause ∧
        last.name r.project g = name ∧ ∀ e ∈ before, e.id?.isSome ∧
          ∀ task : Task, task.IsOf g → e.IsFor task →
            (task.registration? (r.register g state).2.1).isSome := by
  have hcourse := r.course g state
  refine ⟨log_eq g state, hcourse.onward.unregistered, fun task hof => ?_, ?_, hcourse.pairwise, ?_⟩
  · exact registration?_register_ne_iff hof
  · intro e he task htask
    obtain ⟨_, _, hmoment⟩ := exists_moment he htask
    refine ⟨hmoment.text?_name, fun id hof hid => hcourse.registration? he htask hid hof,
      fun owner k hof hown => hmoment.owningAnchor? hown hof, fun registration hregistration => ?_⟩
    exact Task.stale_of_not_isDone hregistration hmoment.not_isDone_start
  · intro name cause hfailed
    obtain ⟨before, last, hsplit, hanswer, hname, hbefore⟩ := hcourse.failed hfailed
    refine ⟨before, last, hsplit, hanswer, hname, fun e he => ⟨hbefore e he, ?_⟩⟩
    intro task hof hfor
    obtain ⟨id, hid⟩ := Option.isSome_iff_exists.1 (hbefore e he)
    have hmem : e ∈ r.transcript g state := hsplit ▸ List.mem_append_left _ he
    obtain ⟨_, -, -, hregistration⟩ := hcourse.registration?_of_isFor hmem hof hfor hid
    exact Option.isSome_iff_exists.2 ⟨_, hregistration⟩

end Registrar

end FeatureCatalog
