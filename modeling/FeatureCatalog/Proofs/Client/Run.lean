import FeatureCatalog.Proofs.Registration.Run

/-! Runs of a client: its operations one after another, each on the session as the one before has
left it. `Client.Keeps` says what a run keeps of the state of the session, and `Session.Shows` that
a session can be exchanged for another one whose state tells more. `Session.watched` is such a
session: it notes each call together with what was wrong with it, so that `Client.replies` are the
calls of a run with their answers, and `Client.calls` the calls alone. -/

namespace FeatureCatalog

/-! ### Sessions that show more -/

/-- A call that a session has answered, and the error that was the answer, if it was one. -/
structure Reply where
  call : Call
  error? : Option TransportError

/-- The call with this answer. -/
def Reply.of {α : Type} (call : Call) : Except TransportError α → Reply
  | .ok _ => ⟨call, none⟩
  | .error cause => ⟨call, some cause⟩

namespace Session

variable {σ τ : Type}

/-- The session whose state also holds all calls with their answers, in order. -/
def watched (s : Session σ) : Session (List Reply × σ) where
  create path body headers state :=
    let (answer, next) := s.create path body headers state.2
    (answer, state.1 ++ [.of (.create path body headers) answer], next)
  read path headers state :=
    let (answer, next) := s.read path headers state.2
    (answer, state.1 ++ [.of (.read path headers) answer], next)
  delete path headers state :=
    let (answer, next) := s.delete path headers state.2
    (answer, state.1 ++ [.of (.delete path headers) answer], next)

/-- Seen through `f`, the session `t` answers as `s` does and goes on as `s` does. -/
structure Shows (t : Session τ) (f : τ → σ) (s : Session σ) : Prop where
  create : ∀ path body headers state,
    (t.create path body headers state).map id f = s.create path body headers (f state)
  read : ∀ path headers state, (t.read path headers state).map id f = s.read path headers (f state)
  delete : ∀ path headers state,
    (t.delete path headers state).map id f = s.delete path headers (f state)

theorem shows_watched (s : Session σ) : s.watched.Shows Prod.snd s where
  create _ _ _ _ := rfl
  read _ _ _ := rfl
  delete _ _ _ := rfl

/-- What a watched session holds of the calls is what a recording one holds. -/
theorem watched_shows_recording (s : Session σ) :
    s.watched.Shows (Prod.map (List.map Reply.call) id) s.recording where
  create path body headers state := by
    cases h : (s.create path body headers state.2).1 <;>
      simp [watched, recording, Reply.of, h]
  read path headers state := by
    cases h : (s.read path headers state.2).1 <;> simp [watched, recording, Reply.of, h]
  delete path headers state := by
    cases h : (s.delete path headers state.2).1 <;> simp [watched, recording, Reply.of, h]

end Session

/-! ### Registrations seen through a function -/

namespace Registrar

variable {σ τ : Type} {f : τ → σ} {t : Session τ} {r : Registrar σ}

/-- The registrar with another session, whose state is seen through `f`. -/
def withSession (r : Registrar σ) (t : Session τ) (f : τ → σ) : Registrar τ :=
  ⟨t, r.project, r.projectTags, r.auth.map (.comap f)⟩

@[simp] theorem session_withSession (r : Registrar σ) (t : Session τ) (f : τ → σ) :
    (r.withSession t f).session = t := rfl

@[simp] theorem project_withSession (r : Registrar σ) (t : Session τ) (f : τ → σ) :
    (r.withSession t f).project = r.project := rfl

@[simp] theorem headers_withSession (r : Registrar σ) (t : Session τ) (f : τ → σ) (state : τ) :
    (r.withSession t f).headers state = r.headers (f state) :=
  AuthProvider.headers_map_comap f r.auth state

@[simp] theorem projectRequest_withSession (r : Registrar σ) (t : Session τ) (f : τ → σ) :
    (r.withSession t f).projectRequest = r.projectRequest := rfl

/-- The progress with its state seen through `f`. -/
def shown (f : τ → σ) (p : Progress τ) : Progress σ := ⟨f p.state, p.graph, p.created, p.skipped⟩

@[simp] theorem graph_shown (f : τ → σ) (p : Progress τ) : (shown f p).graph = p.graph := rfl

@[simp] theorem state_shown (f : τ → σ) (p : Progress τ) : (shown f p).state = f p.state := rfl

variable (h : t.Shows f r.session)
include h

theorem create_withSession (name : String) (request : CreateRequest) (state : τ) :
    ((r.withSession t f).create name request state).map id f = r.create name request (f state) := by
  unfold create
  rw [← h.create, session_withSession, headers_withSession]
  rcases t.create request.path (.obj request.body) (r.headers (f state)) state with
    ⟨_ | _, _⟩ <;> rfl

theorem perform_withSession (projectId : EntityId) (task : Task) (p : Progress τ) :
    ((r.withSession t f).perform projectId task p).map id (shown f) =
      r.perform projectId task (shown f p) := by
  unfold perform
  rw [project_withSession, graph_shown, state_shown]
  cases task.isDone r.project p.graph with
  | true => rfl
  | false =>
    cases task.request p.graph projectId with
    | error e => rfl
    | ok request =>
      simp only [Bool.false_eq_true, if_false, ← create_withSession h]
      rcases (r.withSession t f).create (task.name p.graph) request p.state with ⟨_ | _, _⟩ <;> rfl

theorem performAll_withSession (projectId : EntityId) (tasks : List Task) (p : Progress τ) :
    ((r.withSession t f).performAll projectId tasks p).map id (shown f) =
      r.performAll projectId tasks (shown f p) := by
  induction tasks generalizing p with
  | nil => rfl
  | cons task rest ih =>
    rw [performAll, performAll, ← perform_withSession h]
    rcases (r.withSession t f).perform projectId task p with ⟨_ | _, q⟩
    · rfl
    · exact ih q

/-- A registration runs alike over two sessions of which one shows the other. -/
theorem register_withSession (g : Graph) (state : τ) :
    ((r.withSession t f).register g state).map id (Prod.map id f) = r.register g (f state) := by
  unfold register
  rw [project_withSession, projectRequest_withSession]
  cases g.plan with
  | error e => rfl
  | ok tasks =>
    simp only [← create_withSession h]
    rcases (r.withSession t f).create r.project r.projectRequest state with ⟨_ | projectId, next⟩
    · rfl
    · have hall := performAll_withSession h projectId tasks ⟨next, g, 0, 0⟩
      simp only [shown] at hall
      simp only [Prod.map, id, ← hall]
      rcases (r.withSession t f).performAll projectId tasks ⟨next, g, 0, 0⟩ with ⟨_ | _, _⟩ <;> rfl

end Registrar

/-! ### Runs of a client -/

/-- What a client can be asked to do. -/
inductive Operation where
  | register (g : Graph)
  | fetch (project : String)
  | listFeatures (project : String)
  | listDependents (qualifiedName : String)
  | delete (qualifiedName : String)

namespace Client

variable {σ τ : Type} {c : Client σ}

/-- The session as an operation leaves it, whether the operation fails or not. -/
def apply (c : Client σ) (state : σ) : Operation → σ
  | .register g => (c.registerFeatures g state).2.2
  | .fetch project => (c.fetchProject project state).2
  | .listFeatures project => (c.listFeatures project state).2
  | .listDependents qualifiedName => (c.listDependents qualifiedName state).2
  | .delete qualifiedName => (c.delete qualifiedName state).2

/-- The session as operations leave it that follow one another. -/
def run (c : Client σ) (operations : List Operation) (state : σ) : σ :=
  operations.foldl c.apply state

/-- The client with another session, whose state is seen through `f`. -/
def withSession (c : Client σ) (t : Session τ) (f : τ → σ) : Client τ :=
  ⟨c.config, t, c.auth.map (.comap f)⟩

@[simp] theorem config_withSession (c : Client σ) (t : Session τ) (f : τ → σ) :
    (c.withSession t f).config = c.config := rfl

theorem provider?_withSession (c : Client σ) (t : Session τ) (f : τ → σ) :
    (c.withSession t f).provider? = c.provider?.map (.comap f) := by
  unfold provider?
  rw [config_withSession]
  split <;> rfl

@[simp] theorem headers_withSession (c : Client σ) (t : Session τ) (f : τ → σ) (state : τ) :
    (c.withSession t f).headers state = c.headers (f state) := by
  rw [headers, provider?_withSession]
  exact AuthProvider.headers_map_comap f c.provider? state

theorem registrar_withSession (c : Client σ) (t : Session τ) (f : τ → σ) :
    (c.withSession t f).registrar = c.registrar.withSession t f := by
  rw [registrar, provider?_withSession]
  rfl

theorem withSession_withSession {υ : Type} (c : Client σ) (t : Session τ) (f : τ → σ)
    (u : Session υ) (f' : υ → τ) :
    (c.withSession t f).withSession u f' = c.withSession u (f ∘ f') := by
  simp only [withSession, Option.map_map]
  rfl

/-- All calls that operations make, in order, with their answers. -/
def replies (c : Client σ) (operations : List Operation) (state : σ) : List Reply :=
  ((c.withSession c.session.watched Prod.snd).run operations ([], state)).1

/-- All calls that operations make, in order. -/
def calls (c : Client σ) (operations : List Operation) (state : σ) : List Call :=
  (c.replies operations state).map (·.call)

theorem state_read (c : Client σ) (path : List String) (state : σ) :
    (c.read path state).2 = (c.session.read path (c.headers state) state).2 := by
  unfold read
  split <;> rename_i h <;> exact (congrArg Prod.snd h).symm

theorem state_delete (c : Client σ) (qualifiedName : String) (state : σ) :
    (c.delete qualifiedName state).2 =
      (c.session.delete ["entity", qualifiedName] (c.headers state) state).2 := by
  unfold delete
  split <;> rename_i h <;> exact (congrArg Prod.snd h).symm

/-- Every call with the client's headers keeps `P`. -/
structure Keeps (c : Client σ) (P : σ → Prop) : Prop where
  create : ∀ path body {state}, P state → P (c.session.create path body (c.headers state) state).2
  read : ∀ path {state}, P state → P (c.session.read path (c.headers state) state).2
  delete : ∀ path {state}, P state → P (c.session.delete path (c.headers state) state).2

namespace Keeps

variable {P : σ → Prop} {state : σ}

theorem registrar (hc : c.Keeps P) : c.registrar.Keeps P :=
  fun request _ _ h => hc.create request.path (.obj request.body) h

theorem apply (hc : c.Keeps P) (h : P state) (operation : Operation) :
    P (c.apply state operation) := by
  have hread : ∀ path, P (c.read path state).2 := fun path =>
    c.state_read path state ▸ hc.read path h
  cases operation with
  | register g =>
    unfold Client.apply registerFeatures
    dsimp only
    split
    · exact h
    · exact hc.registrar.register h
  | fetch project => exact hread _
  | listFeatures project => exact hread _
  | listDependents qualifiedName => exact hread _
  | delete qualifiedName =>
    unfold Client.apply
    dsimp only
    rw [state_delete]
    exact hc.delete _ h

/-- What every call keeps, every run keeps. -/
theorem run (hc : c.Keeps P) (h : P state) (operations : List Operation) :
    P (c.run operations state) := by
  induction operations generalizing state with
  | nil => exact h
  | cons operation rest ih => exact ih (hc.apply h operation)

end Keeps

section Shows

variable {f : τ → σ} {t : Session τ} (h : t.Shows f c.session)
include h

theorem apply_withSession (operation : Operation) (state : τ) :
    f ((c.withSession t f).apply state operation) = c.apply (f state) operation := by
  have hread : ∀ path, f ((c.withSession t f).read path state).2 = (c.read path (f state)).2 := by
    intro path
    rw [state_read, state_read, headers_withSession]
    exact congrArg Prod.snd (h.read path (c.headers (f state)) state)
  cases operation with
  | register g =>
    unfold Client.apply registerFeatures
    dsimp only
    rw [config_withSession, registrar_withSession]
    cases c.config.validate with
    | error e => rfl
    | ok => exact congrArg (·.2.2) (Registrar.register_withSession (r := c.registrar) h g state)
  | fetch project => exact hread _
  | listFeatures project => exact hread _
  | listDependents qualifiedName => exact hread _
  | delete qualifiedName =>
    unfold Client.apply
    dsimp only
    rw [state_delete, state_delete, headers_withSession]
    exact congrArg Prod.snd (h.delete _ (c.headers (f state)) state)

/-- A run over one session shows the run over the other. -/
theorem run_withSession (operations : List Operation) (state : τ) :
    f ((c.withSession t f).run operations state) = c.run operations (f state) := by
  induction operations generalizing state with
  | nil => rfl
  | cons operation rest ih =>
    unfold run at ih ⊢
    rw [List.foldl_cons, List.foldl_cons, ih, apply_withSession h]

end Shows

/-- The calls of a run are those that a recording session notes, and noting them changes nothing
else. -/
theorem run_recording (c : Client σ) (operations : List Operation) (state : σ) :
    (c.withSession c.session.recording Prod.snd).run operations ([], state) =
      (c.calls operations state, c.run operations state) := by
  have hrecording := run_withSession (c := c.withSession c.session.recording Prod.snd)
    c.session.watched_shows_recording operations ([], state)
  rw [withSession_withSession] at hrecording
  have hplain := run_withSession c.session.shows_watched operations ([], state)
  exact hrecording.symm.trans (Prod.ext rfl hplain)

end Client

end FeatureCatalog
