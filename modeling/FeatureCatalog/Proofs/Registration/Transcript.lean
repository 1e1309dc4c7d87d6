import FeatureCatalog.Proofs.Registration.Progress
import FeatureCatalog.Proofs.Registration.Recorded

/-! The transcript of a registration: the creations that it asks for, each with the entity that it is
to create and the answer of the session. A session that records its calls records the same ones. What
a run can do is said once, in `Course`: it creates the project, reaches some progress by tasks that
do not fail, and halts there. -/

namespace FeatureCatalog

/-- A creation that a registration has asked for: for which task, if not for the project, with what
request, in which state of the session, and with what answer. -/
structure Exchange (σ : Type) where
  task? : Option Task
  request : CreateRequest
  state : σ
  answer : Except TransportError CreatedEntity

namespace Exchange

variable {σ : Type}

/-- The call that the session has received. -/
def call (headers : σ → Headers) (e : Exchange σ) : Call :=
  .create e.request.path (.obj e.request.body) (headers e.state)

/-- The id that the session has given out. -/
def id? (e : Exchange σ) : Option EntityId :=
  match e.answer with
  | .ok entity => some entity.guid
  | .error _ => none

/-- The creation is that of the entity of the task. -/
def IsFor (task : Task) (e : Exchange σ) : Prop := ∃ own, e.task? = some own ∧ own.slot = task.slot

/-- The name of what is to be created. -/
def name (project : String) (g : Graph) (e : Exchange σ) : String :=
  match e.task? with
  | some task => task.name g
  | none => project

end Exchange

namespace Registrar

variable {σ : Type} {r : Registrar σ} {projectId : EntityId} {tasks : List Task} {task : Task}

/-- A request with the answer to it. -/
def exchange (r : Registrar σ) (task? : Option Task) (request : CreateRequest) (state : σ) :
    Exchange σ :=
  ⟨task?, request, state,
    (r.session.create request.path (.obj request.body) (r.headers state) state).1⟩

/-- The creation that is asked for when a task is performed, if there is any. -/
def exchangesOf (r : Registrar σ) (projectId : EntityId) (task : Task) (p : Progress σ) :
    List (Exchange σ) :=
  if task.isDone r.project p.graph then []
  else
    match task.request p.graph projectId with
    | .error _ => []
    | .ok request => [r.exchange (some task) request p.state]

/-- The creations that are asked for when tasks are performed in turn. -/
def exchanges (r : Registrar σ) (projectId : EntityId) : List Task → Progress σ → List (Exchange σ)
  | [], _ => []
  | task :: rest, p =>
    r.exchangesOf projectId task p ++
      match r.perform projectId task p with
      | (.ok (), p) => r.exchanges projectId rest p
      | (.error _, _) => []

/-- All creations that a registration asks for, in order. -/
def transcript (r : Registrar σ) (g : Graph) (state : σ) : List (Exchange σ) :=
  match g.plan with
  | .error _ => []
  | .ok tasks =>
    r.exchange none r.projectRequest state ::
      match r.create r.project r.projectRequest state with
      | (.error _, _) => []
      | (.ok projectId, state) => r.exchanges projectId tasks ⟨state, g, 0, 0⟩

/-! ### What a session records -/

/-- The registrar whose session records its calls. -/
def recording (r : Registrar σ) : Registrar (List Call × σ) :=
  ⟨r.session.recording, r.project, r.projectTags, r.auth.map (.comap Prod.snd)⟩

theorem headers_recording (state : List Call × σ) :
    r.recording.headers state = r.headers state.2 :=
  AuthProvider.headers_map_comap Prod.snd r.auth state

/-- The calls that a session records of a registration. -/
def log (r : Registrar σ) (g : Graph) (state : σ) : List Call :=
  (r.recording.register g ([], state)).2.2.1

theorem create_recording (task? : Option Task) (name : String) (request : CreateRequest)
    (calls : List Call) (state : σ) : r.recording.create name request (calls, state) =
      ((r.create name request state).1,
        calls ++ [(r.exchange task? request state).call r.headers],
        (r.create name request state).2) := by
  unfold create
  rw [headers_recording]
  simp only [recording, Session.recording]
  split <;> split <;> simp_all [exchange, Exchange.call]

/-- The progress of a run whose session has recorded the calls. -/
def recorded (calls : List Call) (p : Progress σ) : Progress (List Call × σ) :=
  ⟨(calls, p.state), p.graph, p.created, p.skipped⟩

theorem perform_recording (calls : List Call) (p : Progress σ) :
    r.recording.perform projectId task (recorded calls p) =
      ((r.perform projectId task p).1,
        recorded (calls ++ (r.exchangesOf projectId task p).map (·.call r.headers))
          (r.perform projectId task p).2) := by
  have hproject : r.recording.project = r.project := rfl
  have hgraph : (recorded calls p).graph = p.graph := rfl
  have hstate : (recorded calls p).state = (calls, p.state) := rfl
  unfold perform exchangesOf
  rw [hproject, hgraph, hstate]
  cases hdone : task.isDone r.project p.graph with
  | true => simp [recorded]
  | false =>
    cases hrequest : task.request p.graph projectId with
    | error e => simp [recorded]
    | ok request =>
      simp only [create_recording (some task)]
      cases hcreate : r.create (task.name p.graph) request p.state with
      | mk answer next => cases answer <;> simp [recorded]

theorem performAll_recording (projectId : EntityId) (tasks : List Task) (calls : List Call)
    (p : Progress σ) : r.recording.performAll projectId tasks (recorded calls p) =
      ((r.performAll projectId tasks p).1,
        recorded (calls ++ (r.exchanges projectId tasks p).map (·.call r.headers))
          (r.performAll projectId tasks p).2) := by
  induction tasks generalizing calls p with
  | nil => simp [performAll, exchanges]
  | cons task rest ih =>
    rw [performAll, performAll, perform_recording, exchanges]
    cases hperform : r.perform projectId task p with
    | mk answer q => cases answer <;> simp [ih]

/-- A session that records its calls answers as before, and records the calls of the transcript. -/
theorem register_recording (g : Graph) (calls : List Call) (state : σ) :
    r.recording.register g (calls, state) =
      ((r.register g state).1, (r.register g state).2.1,
        calls ++ (r.transcript g state).map (·.call r.headers), (r.register g state).2.2) := by
  have hproject : r.recording.project = r.project := rfl
  have hrequest : r.recording.projectRequest = r.projectRequest := rfl
  unfold register transcript
  rw [hproject, hrequest, create_recording none]
  cases hplan : g.plan with
  | error e => simp
  | ok tasks =>
    cases hcreate : r.create r.project r.projectRequest state with
    | mk answer next =>
      cases answer with
      | error e => simp
      | ok projectId =>
        have hall := performAll_recording (r := r) projectId tasks
          (calls ++ [(r.exchange none r.projectRequest state).call r.headers]) ⟨next, g, 0, 0⟩
        unfold recorded at hall
        simp only [hall]
        cases hperform : r.performAll projectId tasks ⟨next, g, 0, 0⟩ with
        | mk answer p => cases answer <;> simp

theorem log_eq (g : Graph) (state : σ) :
    r.log g state = (r.transcript g state).map (·.call r.headers) := by
  rw [log, register_recording]
  rfl

/-! ### The course of a run -/

/-- The progress that the tasks `done` lead to from `p₀` if none of them fails, asking for the
creations `es`. -/
inductive Reached (r : Registrar σ) (projectId : EntityId) (p₀ : Progress σ) :
    List Task → List (Exchange σ) → Progress σ → Prop
  | start : Reached r projectId p₀ [] [] p₀
  | skipped {done es p task} : Reached r projectId p₀ done es p →
      task.isDone r.project p.graph = true →
      Reached r projectId p₀ (done ++ [task]) es { p with skipped := p.skipped + 1 }
  | created {done es p task request entity state} : Reached r projectId p₀ done es p →
      task.isDone r.project p.graph = false → task.request p.graph projectId = .ok request →
      r.session.create request.path (.obj request.body) (r.headers p.state) p.state =
        (.ok entity, state) →
      Reached r projectId p₀ (done ++ [task]) (es ++ [⟨some task, request, p.state, .ok entity⟩])
        { p with
          state
          graph := task.register p.graph ⟨entity.guid, task.qualifiedName r.project p.graph⟩
          created := p.created + 1 }

/-- How a run halts that has reached `p` and has the given tasks left: with what further creations,
which outcome and which state of the session. The graph stays what it is. -/
inductive Halts (r : Registrar σ) (projectId : EntityId) (p : Progress σ) :
    List Task → List (Exchange σ) → Except CatalogError Unit → σ → Prop
  | finished : Halts r projectId p [] [] (.ok ()) p.state
  | refused {task rest e} : task.isDone r.project p.graph = false →
      task.request p.graph projectId = .error e →
      Halts r projectId p (task :: rest) [] (.error e) p.state
  | failed {task rest request cause state} : task.isDone r.project p.graph = false →
      task.request p.graph projectId = .ok request →
      r.session.create request.path (.obj request.body) (r.headers p.state) p.state =
        (.error cause, state) →
      Halts r projectId p (task :: rest) [⟨some task, request, p.state, .error cause⟩]
        (.error (.registrationFailed (task.name p.graph) cause)) state

/-- A run goes on from what it has reached to where it halts. -/
theorem Reached.performAll {p₀ p : Progress σ} {done : List Task} {es : List (Exchange σ)}
    (h : r.Reached projectId p₀ done es p) (tasks : List Task) :
    ∃ done' rest es' q last outcome state, tasks = done' ++ rest ∧
      r.Reached projectId p₀ (done ++ done') (es ++ es') q ∧
      r.Halts projectId q rest last outcome state ∧
      r.exchanges projectId tasks p = es' ++ last ∧
      r.performAll projectId tasks p = (outcome, { q with state }) := by
  induction tasks generalizing done es p with
  | nil =>
    refine ⟨[], [], [], p, [], _, _, rfl, ?_, .finished, rfl, rfl⟩
    simpa using h
  | cons task rest ih =>
    rw [exchanges, Registrar.performAll]
    cases hdone : task.isDone r.project p.graph with
    | true =>
      obtain ⟨done', rest', es', q, last, outcome, state, rfl, hreached, hhalts, hes, hall⟩ :=
        ih (h.skipped hdone)
      refine ⟨task :: done', rest', es', q, last, outcome, state, rfl, ?_, hhalts, ?_, ?_⟩
      · simpa using hreached
      · rw [exchangesOf, if_pos hdone, perform_of_isDone hdone]
        exact hes
      · rw [perform_of_isDone hdone]
        exact hall
    | false =>
      rw [exchangesOf, perform, if_neg (Bool.eq_false_iff.1 hdone),
        if_neg (Bool.eq_false_iff.1 hdone)]
      cases hrequest : task.request p.graph projectId with
      | error e =>
        exact ⟨[], task :: rest, [], p, [], _, _, rfl, by simpa using h, .refused hdone hrequest,
          rfl, rfl⟩
      | ok request =>
        cases hcreate : r.session.create request.path (.obj request.body) (r.headers p.state)
            p.state with
        | mk answer state =>
          cases answer with
          | error cause =>
            refine ⟨[], task :: rest, [], p, _, _, state, rfl, by simpa using h,
              .failed hdone hrequest hcreate, ?_, ?_⟩
            all_goals simp [exchange, create, hcreate]
          | ok entity =>
            obtain ⟨done', rest', es', q, last, outcome, state', rfl, hreached, hhalts, hes, hall⟩ :=
              ih (h.created hdone hrequest hcreate)
            refine ⟨task :: done', rest', ⟨some task, request, p.state, .ok entity⟩ :: es', q, last,
              outcome, state', rfl, by simpa using hreached, hhalts, ?_, ?_⟩
            · simp [exchange, create, hcreate, hes]
            · simp [create, hcreate, hall]

/-- The courses that a registration can take, with the transcript and the result: the graph is
refused, the project is not created, or the run goes on until it halts. -/
inductive Course (r : Registrar σ) (g : Graph) (state : σ) :
    List (Exchange σ) → Except CatalogError RegistrationSummary × Graph × σ → Prop
  | refused {e} : g.plan = .error e → Course r g state [] (.error e, g, state)
  | rejected {tasks cause next} : g.plan = .ok tasks →
      r.session.create r.projectRequest.path (.obj r.projectRequest.body) (r.headers state) state =
        (.error cause, next) →
      Course r g state [⟨none, r.projectRequest, state, .error cause⟩]
        (.error (.registrationFailed r.project cause), g, next)
  | halted {entity next done rest es p last outcome state'} : g.plan = .ok (done ++ rest) →
      r.session.create r.projectRequest.path (.obj r.projectRequest.body) (r.headers state) state =
        (.ok entity, next) →
      r.Reached entity.guid ⟨next, g, 0, 0⟩ done es p →
      r.Halts entity.guid p rest last outcome state' →
      Course r g state (⟨none, r.projectRequest, state, .ok entity⟩ :: (es ++ last))
        (outcome.map fun _ => ⟨entity.guid, p.created, p.skipped⟩, p.graph, state')

theorem course (r : Registrar σ) (g : Graph) (state : σ) :
    r.Course g state (r.transcript g state) (r.register g state) := by
  unfold transcript register
  cases hplan : g.plan with
  | error e => exact .refused hplan
  | ok tasks =>
    cases hcreate : r.session.create r.projectRequest.path (.obj r.projectRequest.body)
      (r.headers state) state with
    | mk answer next =>
      cases answer with
      | error cause => simpa [exchange, create, hcreate] using Course.rejected hplan hcreate
      | ok entity =>
        have hstart : r.Reached entity.guid ⟨next, g, 0, 0⟩ [] [] ⟨next, g, 0, 0⟩ := .start
        obtain ⟨done, rest, es, p, last, outcome, state', rfl, hreached, hhalts, hes, hall⟩ :=
          hstart.performAll tasks
        have hcourse := Course.halted hplan hcreate hreached hhalts
        simp only [exchange, create, hcreate, hes, hall]
        cases outcome <;> simpa [Except.map] using hcourse

end Registrar

end FeatureCatalog
