import FeatureCatalog.Proofs.Client.Fetchable
import FeatureCatalog.Proofs.Registration.References
import FeatureCatalog.Proofs.Registration.WriteBack

/-! How a registration fails. What can be found wrong with the graph is found before the first call;
after that, every request can be made when its turn comes, and only the session can fail. -/

namespace FeatureCatalog

theorem Graph.Closed.isOf_reference {g : Graph} (h : g.Closed) {order : List DerivedKey}
    {own ref : Task} (hown : own ∈ g.tasks order) (href : ref ∈ own.references g) :
    ref.IsOf g := by
  have huses := Graph.mem_tasks.1 hown
  cases own with
  | source k => cases href
  | anchor k =>
    obtain rfl := List.mem_singleton.1 href
    exact h.sources _ (Graph.anchor_mem huses)
  | feature owner k =>
    obtain rfl := List.mem_singleton.1 href
    exact Graph.mem_anchorKeys.1 huses.1
  | derived k =>
    obtain ⟨input, hinput, rfl⟩ := List.mem_map.1 href
    have hd := Graph.derivedFeature_mem (Graph.mem_derivedKeys_of_mem_inputs hinput)
    rcases List.mem_append.1 hinput with hinput | hinput
    · obtain ⟨f, hf, rfl⟩ := List.mem_map.1 hinput
      exact h.anchoredInputs _ hd f hf
    · obtain ⟨u, hu, rfl⟩ := List.mem_map.1 hinput
      exact h.derivedInputs _ hd u hu

namespace Registrar

variable {σ : Type} {r : Registrar σ} {g : Graph} {state : σ} {projectId : EntityId}

/-- When a run comes to a task of its plan, the request for it can be made. -/
theorem Reached.exists_request {next : σ} {done rest : List Task} {own : Task}
    {es : List (Exchange σ)} {q : Progress σ} (h : r.Reached projectId ⟨next, g, 0, 0⟩ done es q)
    (hclosed : g.Closed) (hplan : g.plan = .ok (done ++ own :: rest)) :
    ∃ request, own.request q.graph projectId = .ok request := by
  have hunregistered : q.graph.unregistered = g.unregistered := h.onward.unregistered
  obtain ⟨order, -, -, hsources, htasks⟩ := Graph.plan_eq_ok.1 hplan
  have hown : own ∈ g.tasks order := by simp [htasks]
  apply Task.exists_request
  · intro ref href
    rw [Task.references_congr hunregistered] at href
    exact Task.isSome_of_isDone
      (h.isDone_reference hplan href (hclosed.isOf_reference hown href))
  · rintro k rfl
    obtain ⟨a, ha, rfl⟩ := Graph.mem_tasks.1 hown
    have hkind : (q.graph.source (g.anchor a).source).kind = (g.source (g.anchor a).source).kind :=
      (congrArg Source.kind (Graph.source_congr hunregistered _) :)
    rw [hkind]
    exact hsources _ (Graph.anchor_mem ha)

theorem register_of_plan_eq_error {e : CatalogError} (h : g.plan = .error e) (state : σ) :
    r.transcript g state = [] ∧ r.register g state = (.error e, g, state) := by
  unfold transcript register
  rw [h]
  exact ⟨rfl, rfl⟩

theorem exists_transcript_of_plan {tasks : List Task} (h : g.plan = .ok tasks) (state : σ) :
    ∃ answer es, r.transcript g state = ⟨none, r.projectRequest, state, answer⟩ :: es := by
  unfold transcript
  rw [h]
  exact ⟨_, _, rfl⟩

/-- A run whose graph is not refused can fail in one way only: a creation fails. -/
theorem Course.eq_registrationFailed {es : List (Exchange σ)}
    {result : Except CatalogError RegistrationSummary × Graph × σ} (h : r.Course g state es result)
    (hclosed : g.Closed) (hplan : ∀ e, g.plan ≠ .error e) {e : CatalogError}
    (he : result.1 = .error e) : ∃ name cause, e = .registrationFailed name cause := by
  cases h with
  | refused hrefused => exact absurd hrefused (hplan _)
  | rejected => exact ⟨_, _, (Except.error.inj he).symm⟩
  | halted hplan' _ hreached hhalts =>
    cases hhalts with
    | finished => cases he
    | refused _ hrequest =>
      obtain ⟨request, hok⟩ := hreached.exists_request hclosed hplan'
      cases hok.symm.trans hrequest
    | failed => exact ⟨_, _, (Except.error.inj he).symm⟩

/-- All that can fail in the graph fails before the first call. A registration makes no call, and
leaves the graph as it is, exactly if the graph has a fault, and then it reports the fault that comes
first: a cycle, an orphan among the inputs, or a reserved option. Otherwise it first asks for the
project, and if the keys in the graph are its own, then whatever the session answers, the run fails
only where a creation does, with the cause that the session has given. -/
theorem register_fails_before_first_call (r : Registrar σ) (g : Graph) (state : σ) :
    (r.log g state = [] ∧ (r.register g state).2.1 = g ↔ g.IsFaulty) ∧
    (g.IsFaulty → ∃ e, g.Fault e ∧ r.register g state = (.error e, g, state)) ∧
    (¬g.IsFaulty →
      (∃ rest, r.log g state =
        .create ["projects"]
          (.obj [("name", .str r.project), ("tags", Json.ofTags r.projectTags)])
          (r.headers state) :: rest) ∧
      (g.Closed → ∀ e, (r.register g state).1 = .error e →
        ∃ name cause before last, e = .registrationFailed name cause ∧
          r.transcript g state = before ++ [last] ∧ last.answer = .error cause)) := by
  rw [log_eq]
  cases hplan : g.plan with
  | error e =>
    obtain ⟨htranscript, hregister⟩ := register_of_plan_eq_error (r := r) hplan state
    have hfault := Graph.fault_of_plan hplan
    rw [htranscript, hregister]
    exact ⟨⟨fun _ => hfault.isFaulty, fun _ => ⟨rfl, rfl⟩⟩, fun _ => ⟨e, hfault, rfl⟩,
      fun hnot => absurd hfault.isFaulty hnot⟩
  | ok tasks =>
    have hnot := Graph.not_isFaulty_of_plan hplan
    obtain ⟨answer, es, htranscript⟩ := exists_transcript_of_plan (r := r) hplan state
    refine ⟨⟨fun hnone => ?_, fun hfaulty => absurd hfaulty hnot⟩,
      fun hfaulty => absurd hfaulty hnot, fun _ => ⟨?_, fun hclosed e he => ?_⟩⟩
    · rw [htranscript] at hnone
      cases hnone.1
    · rw [htranscript]
      exact ⟨_, rfl⟩
    · have hcourse := r.course g state
      obtain ⟨name, cause, rfl⟩ :=
        hcourse.eq_registrationFailed hclosed (fun e he => by simp [hplan] at he) he
      obtain ⟨before, last, hsplit, hanswer, -⟩ := hcourse.failed he
      exact ⟨name, cause, before, last, rfl, hsplit, hanswer⟩

/-- A registry that fails creations after two of them lets the run fail with its own cause. -/
theorem small_fails_with_registry :
    Graph.small.Closed ∧ ¬Graph.small.IsFaulty ∧ ∃ name cause before last,
      (Client.counting.registrar.register .small { Store.empty none with failAfter := some 2 }).1 =
        .error (.registrationFailed name cause) ∧
      Client.counting.registrar.transcript .small { Store.empty none with failAfter := some 2 } =
        before ++ [last] ∧ last.answer = .error cause := by
  have hclosed : Graph.small.Closed := ⟨by decide, by decide, by decide, by decide⟩
  have hnot := Graph.not_isFaulty_of_plan Graph.plan_small
  have hnone : (Client.counting.registrar.register .small
      { Store.empty none with failAfter := some 2 }).1.toOption.isNone := by
    rw [register_of_plan Graph.plan_small]
    decide +kernel
  obtain ⟨-, -, hotherwise⟩ := register_fails_before_first_call Client.counting.registrar .small
    { Store.empty none with failAfter := some 2 }
  cases hresult : (Client.counting.registrar.register .small
      { Store.empty none with failAfter := some 2 }).1 with
  | ok summary =>
    rw [hresult] at hnone
    cases hnone
  | error e =>
    obtain ⟨name, cause, before, last, rfl, hsplit, hanswer⟩ :=
      (hotherwise hnot).2 hclosed e hresult
    exact ⟨hclosed, hnot, name, cause, before, last, rfl, hsplit, hanswer⟩

end Registrar

end FeatureCatalog
