import FeatureCatalog.Client
import FeatureCatalog.Proofs.Registration.Request
import FeatureCatalog.Proofs.Store.Step

/-! Runs of a registration: what a run keeps of the state of the session if every creation does, and
what it leaves of a registry that is sound. -/

namespace FeatureCatalog

namespace Registrar

variable {σ : Type} {r : Registrar σ} {P : σ → Prop}

/-- Every creation that a registration asks for keeps `P`. -/
def Keeps (r : Registrar σ) (P : σ → Prop) : Prop :=
  ∀ (request : CreateRequest) (state : σ), request.Issued → P state →
    P (r.session.create request.path (.obj request.body) (r.headers state) state).2

theorem state_create (name : String) (request : CreateRequest) (state : σ) :
    (r.create name request state).2 =
      (r.session.create request.path (.obj request.body) (r.headers state) state).2 := by
  unfold create
  split <;> simp_all

theorem Keeps.perform (hr : r.Keeps P) (projectId : EntityId) (task : Task) {p : Progress σ}
    (h : P p.state) : P (r.perform projectId task p).2.state := by
  unfold Registrar.perform
  split
  · exact h
  · split
    · exact h
    · rename_i request hrequest
      have hstate := hr request p.state (Task.asks_of_request hrequest).issued h
      rw [← state_create (task.name p.graph)] at hstate
      split <;> rename_i hcreate <;> rw [hcreate] at hstate <;> exact hstate

theorem Keeps.performAll (hr : r.Keeps P) (projectId : EntityId) (tasks : List Task)
    {p : Progress σ} (h : P p.state) : P (r.performAll projectId tasks p).2.state := by
  induction tasks generalizing p with
  | nil => exact h
  | cons task rest ih =>
    have hstate := hr.perform projectId task h
    unfold Registrar.performAll
    split <;> rename_i hperform <;> rw [hperform] at hstate
    · exact ih hstate
    · exact hstate

theorem Keeps.of_create (hr : r.Keeps P) {name : String} {request : CreateRequest}
    (hissued : request.Issued) {state next : σ} {answer : Except CatalogError EntityId}
    (hcreate : r.create name request state = (answer, next)) (h : P state) : P next := by
  have hnext := hr request state hissued h
  rwa [← state_create name, hcreate] at hnext

theorem Keeps.of_perform (hr : r.Keeps P) {projectId : EntityId} {task : Task} {p p' : Progress σ}
    {outcome : Except CatalogError Unit} (hperform : r.perform projectId task p = (outcome, p'))
    (h : P p.state) : P p'.state := by
  have hkept := hr.perform projectId task h
  rwa [hperform] at hkept

theorem Keeps.of_performAll (hr : r.Keeps P) {projectId : EntityId} {tasks : List Task}
    {p p' : Progress σ} {outcome : Except CatalogError Unit}
    (hperform : r.performAll projectId tasks p = (outcome, p')) (h : P p.state) : P p'.state := by
  have hkept := hr.performAll projectId tasks h
  rwa [hperform] at hkept

/-- A run keeps what every creation keeps, whether it fails or not. -/
theorem Keeps.register (hr : r.Keeps P) {g : Graph} {state : σ} (h : P state) :
    P (r.register g state).2.2 := by
  unfold Registrar.register
  split
  · exact h
  · have hstate := hr r.projectRequest state (.project _ _) h
    rw [← state_create r.project] at hstate
    split <;> rename_i hcreate <;> rw [hcreate] at hstate
    · exact hstate
    · rename_i projectId next
      have hall := hr.performAll projectId ‹List Task› (p := ⟨next, g, 0, 0⟩) hstate
      split <;> rename_i hperform <;> rw [hperform] at hall <;> exact hall

/-- Carries out the tasks of a plan: creates the project, and then performs the tasks in turn. -/
def carryOut (r : Registrar σ) (tasks : List Task) (g : Graph) (state : σ) :
    Except CatalogError RegistrationSummary × Graph × σ :=
  match r.create r.project r.projectRequest state with
  | (.error e, state) => (.error e, g, state)
  | (.ok projectId, state) =>
    match r.performAll projectId tasks ⟨state, g, 0, 0⟩ with
    | (.error e, p) => (.error e, p.graph, p.state)
    | (.ok (), p) => (.ok ⟨projectId, p.created, p.skipped⟩, p.graph, p.state)

theorem register_of_plan {g : Graph} {tasks : List Task} (h : g.plan = .ok tasks) (state : σ) :
    r.register g state = r.carryOut tasks g state := by
  unfold Registrar.register
  rw [h]
  rfl

theorem carryOut_ok {tasks : List Task} {g g' : Graph} {state state' : σ}
    {summary : RegistrationSummary}
    (h : r.carryOut tasks g state = (.ok summary, g', state')) :
    ∃ next p, r.create r.project r.projectRequest state = (.ok summary.projectId, next) ∧
      r.performAll summary.projectId tasks ⟨next, g, 0, 0⟩ = (.ok (), p) ∧
      p.graph = g' ∧ p.state = state' := by
  unfold carryOut at h
  split at h
  · simp at h
  · rename_i projectId next hcreate
    split at h
    · simp at h
    · rename_i p hperform
      simp only [Prod.mk.injEq, Except.ok.injEq] at h
      obtain ⟨rfl, rfl, rfl⟩ := h
      exact ⟨next, p, hcreate, hperform, rfl, rfl⟩

/-! ### Runs against a registry -/

theorem create_of_session {entropy : Entropy} {r : Registrar Store}
    (h : r.session = Store.session entropy) : r.session.create = Store.create entropy := by
  rw [h]
  rfl

/-- The registry has come from `start`, and if all ids drawn since were new it is sound, holds
nothing older but what was there, and has the property `P`. -/
structure Follows (entropy : Entropy) (P : Store → Prop) (start s : Store) : Prop where
  drawn : start.drawn ≤ s.drawn
  since : entropy.Fresh start.contents start.drawn s.drawn → Store.Since entropy start s
  sound : entropy.Fresh start.contents start.drawn s.drawn → s.contents.Sound
  prop : entropy.Fresh start.contents start.drawn s.drawn → P s

variable {entropy : Entropy} {r : Registrar Store} {P : Store → Prop} {start : Store}

theorem Follows.refl (hsound : start.contents.Sound) (h : P start) :
    Follows entropy P start start :=
  ⟨Nat.le_refl _, fun _ => .refl entropy start, fun _ => hsound, fun _ => h⟩

theorem Follows.imp {P' : Store → Prop} {s : Store} (h : Follows entropy P start s)
    (hP : ∀ s, P s → P' s) : Follows entropy P' start s :=
  ⟨h.drawn, h.since, h.sound, fun hfresh => hP s (h.prop hfresh)⟩

/-- A creation goes on from where the registry has come, whatever it is answered. -/
theorem Follows.create {P' : Store → Prop} {s s' : Store} (h : Follows entropy P start s)
    {path : List String} {body : Json} {headers : Headers}
    {answer : Except TransportError CreatedEntity}
    (hcreate : s.create entropy path body headers = (answer, s'))
    (hP : s.contents.Sound → entropy.Fresh s.contents s.drawn s'.drawn → P s → P' s') :
    Follows entropy P' start s' := by
  have hdrawn : s.drawn ≤ s'.drawn := by
    have hanswers := Store.answers_create entropy s path body headers
    rw [hcreate] at hanswers
    exact hanswers.drawn
  refine ⟨Nat.le_trans h.drawn hdrawn, fun hfresh => ?_, fun hfresh => ?_, fun hfresh => ?_⟩
  all_goals
    have hfresh' := hfresh.mono hdrawn
    have hsound := h.sound hfresh'
    have hsince := h.since hfresh'
  · exact hsince.create hsound hcreate
  · exact Store.sound_create hsound hcreate (hsince.fresh hfresh)
  · exact hP hsound (hsince.fresh hfresh) (h.prop hfresh')

/-- A registry keeps to its course as long as creations keep `P`. -/
theorem keeps_follows (hsession : r.session = Store.session entropy)
    (hP : ∀ {request : CreateRequest} {s s' : Store} {answer}, request.Issued →
      s.contents.Sound → entropy.Fresh s.contents s.drawn s'.drawn → P s →
      s.create entropy request.path (.obj request.body) (r.headers s) = (answer, s') → P s') :
    r.Keeps (Follows entropy P start) := by
  intro request s hissued h
  rw [create_of_session hsession]
  cases hcreate : s.create entropy request.path (.obj request.body) (r.headers s) with
  | mk answer s' =>
    exact h.create hcreate fun hsound hfresh hs => hP hissued hsound hfresh hs hcreate

end Registrar

/-- A registry to which a client registers a graph keeps what creations keep. -/
theorem Client.follows_registerFeatures {entropy : Entropy} {client : Client Store}
    {P : Store → Prop} (hsession : client.session = Store.session entropy)
    (hP : ∀ {request : CreateRequest} {s s' : Store} {answer}, request.Issued →
      s.contents.Sound → entropy.Fresh s.contents s.drawn s'.drawn → P s →
      s.create entropy request.path (.obj request.body) (client.headers s) = (answer, s') → P s')
    (g : Graph) {s : Store} (hs : s.contents.Sound) (h : P s) :
    Registrar.Follows entropy P s (client.registerFeatures g s).2.2 := by
  unfold Client.registerFeatures
  split
  · exact .refl hs h
  · have hkeeps : client.registrar.Keeps (Registrar.Follows entropy P s) :=
      Registrar.keeps_follows hsession hP
    exact hkeeps.register (.refl hs h)

theorem Client.registerFeatures_of_plan {σ : Type} {client : Client σ} {g : Graph}
    {tasks : List Task} (hvalid : client.config.validate = .ok ()) (hplan : g.plan = .ok tasks)
    (state : σ) :
    client.registerFeatures g state = client.registrar.carryOut tasks g state := by
  unfold Client.registerFeatures
  rw [hvalid]
  exact Registrar.register_of_plan hplan state

/-- A registration that does not fail was of a valid configuration and of a graph with a plan. -/
theorem Client.plan_of_registerFeatures {σ : Type} {client : Client σ} {g g' : Graph}
    {state state' : σ} {summary : RegistrationSummary}
    (h : client.registerFeatures g state = (.ok summary, g', state')) :
    client.config.validate = .ok () ∧ ∃ tasks, g.plan = .ok tasks := by
  unfold Client.registerFeatures at h
  split at h
  · simp at h
  · rename_i hvalid
    unfold Registrar.register at h
    split at h
    · simp at h
    · rename_i tasks hplan
      exact ⟨hvalid, tasks, hplan⟩

end FeatureCatalog
