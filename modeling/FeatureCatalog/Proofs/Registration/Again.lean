import FeatureCatalog.Proofs.Registration.Growth

/-! A registration that has succeeded leaves nothing to do. A second run, whatever its session, asks
for the project and for nothing else. -/

namespace FeatureCatalog

/-- In a graph whose keys are its own, all tasks are of entities of the graph. -/
theorem Graph.Closed.isOf_of_mem_tasks {g : Graph} (h : g.Closed) {order : List DerivedKey}
    (horder : g.order g.derivedKeys = .ok order) {task : Task} (htask : task ∈ g.tasks order) :
    task.IsOf g := by
  have huses := Graph.mem_tasks.1 htask
  cases task with
  | source k =>
    obtain ⟨a, ha, rfl⟩ := huses
    exact h.sources _ (Graph.anchor_mem ha)
  | anchor k => exact Graph.mem_anchorKeys.1 huses
  | feature owner k => exact h.features _ (Graph.anchor_mem huses.1) k huses.2
  | derived k =>
    obtain ⟨r, hr, hreach⟩ := (Graph.mem_order_iff horder).1 huses
    rcases hreach.cases_head with rfl | ⟨v, hinput, -⟩
    · exact Graph.mem_derivedKeys.1 hr
    · have hv := Graph.derivedFeature_mem (Graph.mem_derivedKeys_of_isInput hinput)
      exact h.derivedInputs _ hv k hinput

namespace Registrar

variable {σ τ : Type} {r : Registrar σ} {projectId : EntityId} {tasks : List Task}

/-- Every task that has been performed has been counted. -/
theorem Reached.counts {p₀ p : Progress σ} {done : List Task} {es : List (Exchange σ)}
    (h : r.Reached projectId p₀ done es p) :
    p.created + p.skipped = p₀.created + p₀.skipped + done.length := by
  induction h with
  | start => rfl
  | skipped _ _ ih =>
    simp only [List.length_append, List.length_singleton]
    omega
  | created _ _ _ _ ih =>
    simp only [List.length_append, List.length_singleton]
    omega

/-- A run that has succeeded has created the project and performed all tasks of its plan, and has
asked for nothing else. -/
theorem finished_of_register {g g' : Graph} {state state' : σ} {summary : RegistrationSummary}
    (h : r.register g state = (.ok summary, g', state')) :
    ∃ entity tasks next es p, g.plan = .ok tasks ∧
      r.session.create r.projectRequest.path (.obj r.projectRequest.body) (r.headers state) state =
        (.ok entity, next) ∧
      r.Reached entity.guid ⟨next, g, 0, 0⟩ tasks es p ∧
      r.transcript g state = ⟨none, r.projectRequest, state, .ok entity⟩ :: es ∧ p.graph = g' ∧
      summary = ⟨entity.guid, p.created, p.skipped⟩ := by
  have hcourse := r.course g state
  rw [h] at hcourse
  generalize hes : r.transcript g state = es at hcourse ⊢
  generalize hresult : (Except.ok summary, g', state') = result at hcourse
  cases hcourse with
  | refused | rejected => simp at hresult
  | @halted entity next done rest es p last outcome state'' hplan hcreate hreached hhalts =>
    cases hhalts with
    | finished =>
      simp only [Except.map, Prod.mk.injEq, Except.ok.injEq] at hresult
      obtain ⟨rfl, rfl, -⟩ := hresult
      rw [List.append_nil] at hplan
      exact ⟨entity, done, next, es, p, hplan, hcreate, hreached, by rw [List.append_nil], rfl,
        rfl⟩
    | refused | failed => simp [Except.map] at hresult

theorem reached_of_register {g g' : Graph} {state state' : σ} {summary : RegistrationSummary}
    (h : r.register g state = (.ok summary, g', state')) :
    ∃ tasks next es p, g.plan = .ok tasks ∧
      r.Reached summary.projectId ⟨next, g, 0, 0⟩ tasks es p ∧ p.graph = g' ∧
      p.created = summary.created ∧ p.skipped = summary.skipped := by
  obtain ⟨entity, tasks, next, es, p, hplan, -, hreached, -, hgraph, rfl⟩ := finished_of_register h
  exact ⟨tasks, next, es, p, hplan, hreached, hgraph, rfl, rfl⟩

theorem exchanges_of_isDone {p : Progress σ}
    (h : ∀ task ∈ tasks, task.isDone r.project p.graph = true) :
    r.exchanges projectId tasks p = [] := by
  induction tasks generalizing p with
  | nil => rfl
  | cons task rest ih =>
    obtain ⟨hhead, hrest⟩ := List.forall_mem_cons.1 h
    rw [exchanges, perform_of_isDone hhead, exchangesOf, if_pos hhead]
    exact ih hrest

/-- Where all tasks are done, a run asks for the project only, and leaves the graph as it is. -/
theorem register_of_isDone {g : Graph} (hplan : g.plan = .ok tasks)
    (h : ∀ task ∈ tasks, task.isDone r.project g = true) (state : σ) :
    r.transcript g state = [r.exchange none r.projectRequest state] ∧
      r.register g state =
        match r.session.create r.projectRequest.path (.obj r.projectRequest.body)
          (r.headers state) state with
        | (.ok entity, next) => (.ok ⟨entity.guid, 0, tasks.length⟩, g, next)
        | (.error cause, next) => (.error (.registrationFailed r.project cause), g, next) := by
  have hnone : ∀ projectId next, r.exchanges projectId tasks ⟨next, g, 0, 0⟩ = [] :=
    fun _ _ => exchanges_of_isDone h
  have hall : ∀ projectId next, r.performAll projectId tasks ⟨next, g, 0, 0⟩ =
      (.ok (), ⟨next, g, 0, 0 + tasks.length⟩) := fun _ _ => performAll_of_isDone h
  rw [register_of_plan hplan]
  unfold transcript carryOut create
  rw [hplan]
  generalize r.session.create r.projectRequest.path (.obj r.projectRequest.body)
    (r.headers state) state = answered
  obtain ⟨answer, next⟩ := answered
  cases answer with
  | error cause => exact ⟨rfl, rfl⟩
  | ok entity => simp [hnone, hall]

/-- Registering twice creates nothing. Once a graph whose keys are its own has been registered, with
whatever session, a run for the same project with another session makes one call: it creates the
project. The graph stays as it is, whatever that session answers; and if the project is created, the
run succeeds, having created nothing and passed over all that the first run came to. -/
theorem register_again_creates_nothing (r : Registrar σ) (r' : Registrar τ)
    (hproject : r'.project = r.project) {g g' : Graph} (hclosed : g.Closed) {state state' : σ}
    {summary : RegistrationSummary} (h : r.register g state = (.ok summary, g', state'))
    (start : τ) :
    r'.log g' start =
        [.create ["projects"]
          (.obj [("name", .str r'.project), ("tags", Json.ofTags r'.projectTags)])
          (r'.headers start)] ∧
      (r'.register g' start).2.1 = g' ∧
      r'.register g' start =
        match r'.session.create ["projects"]
          (.obj [("name", .str r'.project), ("tags", Json.ofTags r'.projectTags)])
          (r'.headers start) start with
        | (.ok entity, next) => (.ok ⟨entity.guid, 0, summary.created + summary.skipped⟩, g', next)
        | (.error cause, next) => (.error (.registrationFailed r'.project cause), g', next) := by
  obtain ⟨tasks, next, es, p, hplan, hreached, rfl, hcreated, hskipped⟩ := reached_of_register h
  obtain ⟨order, horder, -, -, htasks⟩ := Graph.plan_eq_ok.1 hplan
  -- All tasks of the plan are done now, and the plan is what it was.
  have hdone : ∀ task ∈ tasks, task.isDone r'.project p.graph = true := by
    intro task htask
    rw [hproject]
    exact hreached.isDone htask (hclosed.isOf_of_mem_tasks horder (htasks ▸ htask))
  have hplan' : p.graph.plan = .ok tasks := hreached.advances.plan hplan
  have hcount : tasks.length = summary.created + summary.skipped := by
    have hcounts := hreached.counts
    simp only at hcounts
    omega
  obtain ⟨htranscript, hregister⟩ := register_of_isDone hplan' hdone start
  rw [hcount] at hregister
  refine ⟨?_, ?_, hregister⟩
  · rw [log_eq, htranscript]
    rfl
  · rw [hregister]
    split <;> rfl

/-- A second run to a registry that has nothing of the first one creates the project and passes over
all four entities. -/
theorem registeredSmall_again_creates_nothing :
    Client.counting.registrar.log .registeredSmall (.empty none) =
        [.create ["projects"] (.obj [("name", .str "p"), ("tags", .obj [])]) []] ∧
      (Client.counting.registrar.register .registeredSmall (.empty none)).2.1 =
        .registeredSmall ∧
      (Client.counting.registrar.register .registeredSmall (.empty none)).1 =
        .ok ⟨.ofBits 0, 0, 4⟩ := by
  have hclosed : Graph.small.Closed := ⟨by decide, by decide, by decide, by decide⟩
  have hcount : (Client.counting.registrar.register .small (.empty none)).1.toOption.map
      (fun summary => summary.created + summary.skipped) = some 4 := by
    rw [register_of_plan Graph.plan_small]
    decide +kernel
  obtain ⟨summary, g', hrun⟩ := Store.exists_registerFeatures_small
  rw [Client.registerFeatures_small, ← register_of_plan Graph.plan_small] at hrun
  rw [hrun] at hcount
  have hfour : summary.created + summary.skipped = 4 := Option.some.inj hcount
  obtain ⟨hlog, hgraph, hregister⟩ := register_again_creates_nothing Client.counting.registrar
    Client.counting.registrar rfl hclosed hrun (.empty none)
  rw [hfour] at hregister
  have hsmall : Graph.registeredSmall = g' := congrArg (fun result => result.2.1) hrun
  rw [hsmall]
  exact ⟨hlog, hgraph, by rw [hregister]; rfl⟩

end Registrar

end FeatureCatalog
