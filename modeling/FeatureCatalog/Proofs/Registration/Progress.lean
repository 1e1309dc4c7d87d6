import FeatureCatalog.Proofs.Registration.Plan
import FeatureCatalog.Proofs.Registration.Run

/-! How a registration progresses: a task that has been performed is done, it stays done, and what
has been done is left alone when a run comes to it again. -/

namespace FeatureCatalog

namespace Task

variable {g g' : Graph} {task other : Task} {project : String} {id : EntityId}

theorem registration?_slot (task : Task) (g : Graph) :
    task.slot.registration? g = task.registration? g := by
  cases task <;> rfl

theorem isDone_slot (task : Task) (project : String) (g : Graph) :
    task.slot.isDone project g = task.isDone project g := by
  cases task <;> rfl

theorem isDone_source (k : SourceKey) (project : String) (g : Graph) :
    (source k).isDone project g =
      ((g.source k).registration.map (isReusable project (g.source k))).getD false :=
  rfl

theorem isDone_of_blank (h : task.registration? g = none) : task.isDone project g = false := by
  cases task with
  | source k =>
    have hregistration : (g.source k).registration = none := h
    rw [isDone_source, hregistration]
    rfl
  | anchor | feature | derived => exact congrArg Option.isSome h

/-- Whether a task is done depends on the registration of its entity. -/
theorem isDone_congr (h : g'.unregistered = g.unregistered)
    (hsame : task.registration? g' = task.registration? g) :
    task.isDone project g' = task.isDone project g := by
  cases task with
  | source k =>
    have hregistration : (g'.source k).registration = (g.source k).registration := hsame
    have hname : (g'.source k).name = (g.source k).name :=
      (congrArg Source.name (Graph.source_congr h k) :)
    have hkind : (g'.source k).kind = (g.source k).kind :=
      (congrArg Source.kind (Graph.source_congr h k) :)
    rw [isDone_source, isDone_source, hregistration]
    unfold isReusable Source.isContext
    rw [hname, hkind]
  | anchor | feature | derived => exact congrArg Option.isSome hsame

theorem isDone_register_self (h : task.IsOf g) (project : String) (id : EntityId) :
    task.isDone project (task.register g ⟨id, task.qualifiedName project g⟩) = true := by
  have hself := registration?_register_self h ⟨id, task.qualifiedName project g⟩
  cases task with
  | source k =>
    generalize hg : (source k).register g _ = g' at hself ⊢
    have hname : (g'.source k).name = (g.source k).name := by
      rw [← hg]
      exact (congrArg Source.name (Graph.source_congr (unregistered_register _ _ _) k) :)
    change (g'.source k).registration = _ at hself
    rw [isDone_source, hself, Option.map_some, Option.getD_some, isReusable, hname]
    simp [qualifiedName, name]
  | anchor | feature | derived => exact Option.isSome_iff_exists.2 ⟨_, hself⟩

theorem isDone_register (h : task.IsOf g) (hdone : other.isDone project g = true)
    (id : EntityId) :
    other.isDone project (task.register g ⟨id, task.qualifiedName project g⟩) = true := by
  by_cases hslot : task.slot = other.slot
  · rw [← isDone_slot other, ← hslot, isDone_slot]
    exact isDone_register_self h project id
  · rw [isDone_congr (unregistered_register _ _ _) (registration?_register_ne hslot _)]
    exact hdone

theorem advances_register (task : Task) (g : Graph) (r : Registration) :
    g.Advances (task.register g r) where
  unregistered := unregistered_register task g r
  registered other hother := by
    by_cases hof : task.IsOf g
    · by_cases hslot : task.slot = other.slot
      · rw [← registration?_slot other, ← hslot, registration?_slot,
          registration?_register_self hof r]
        rfl
      · rwa [registration?_register_ne hslot]
    · rwa [register_of_not_isOf hof]

theorem name_ne_empty {projectId : EntityId} {request : CreateRequest}
    (h : task.Asks g projectId request) {c : Contents} {d : Definition}
    (hd : Creation.Describes c request.body request.path d) : task.name g ≠ "" := by
  obtain ⟨name, hname, -⟩ := hd.isNamed
  obtain rfl := Option.some.inj (h.text?_name.symm.trans hname.text)
  exact hname.ne_empty

theorem path_ne_projects {projectId : EntityId} {request : CreateRequest}
    (h : task.Asks g projectId request) : request.path ≠ ["projects"] := by
  cases h <;> simp

end Task

namespace Registrar

variable {σ : Type} {r : Registrar σ} {projectId : EntityId} {task : Task} {p p' : Progress σ}

theorem perform_of_isDone (h : task.isDone r.project p.graph = true) :
    r.perform projectId task p = (.ok (), { p with skipped := p.skipped + 1 }) := by
  rw [perform, if_pos h]

/-- A task that is performed was done, or its entity is created and its registration noted. -/
theorem perform_ok (h : r.perform projectId task p = (.ok (), p')) :
    (task.isDone r.project p.graph = true ∧ p' = { p with skipped := p.skipped + 1 }) ∨
      task.isDone r.project p.graph = false ∧
        ∃ request id, task.request p.graph projectId = .ok request ∧
          r.create (task.name p.graph) request p.state = (.ok id, p'.state) ∧
          p'.graph = task.register p.graph ⟨id, task.qualifiedName r.project p.graph⟩ := by
  by_cases hdone : task.isDone r.project p.graph = true
  · rw [perform_of_isDone hdone] at h
    exact .inl ⟨hdone, (Prod.mk.inj h).2.symm⟩
  · rw [perform, if_neg hdone] at h
    split at h
    · simp at h
    · rename_i request hrequest
      split at h
      · simp at h
      · rename_i id state hcreate
        obtain ⟨-, rfl⟩ := Prod.mk.inj h
        exact .inr ⟨Bool.eq_false_iff.2 hdone, request, id, hrequest, hcreate, rfl⟩

theorem performAll_append (as bs : List Task) (p : Progress σ) :
    r.performAll projectId (as ++ bs) p =
      match r.performAll projectId as p with
      | (.ok (), p) => r.performAll projectId bs p
      | (.error e, p) => (.error e, p) := by
  induction as generalizing p with
  | nil => rfl
  | cons task rest ih =>
    rw [List.cons_append, performAll, performAll]
    split
    · exact ih _
    · rfl

theorem performAll_append_of_ok {as : List Task} (h : r.performAll projectId as p = (.ok (), p'))
    (bs : List Task) : r.performAll projectId (as ++ bs) p = r.performAll projectId bs p' := by
  rw [performAll_append]
  simp only [h]

theorem performAll_of_isDone {tasks : List Task}
    (h : ∀ task ∈ tasks, task.isDone r.project p.graph = true) :
    r.performAll projectId tasks p =
      (.ok (), { p with skipped := p.skipped + tasks.length }) := by
  induction tasks generalizing p with
  | nil => rfl
  | cons task rest ih =>
    obtain ⟨hhead, hrest⟩ := List.forall_mem_cons.1 h
    rw [performAll, perform_of_isDone hhead]
    refine (ih (p := { p with skipped := p.skipped + 1 }) hrest).trans ?_
    rw [List.length_cons, Nat.add_assoc, Nat.add_comm 1]

end Registrar

/-! ### Against a registry -/

namespace Registrar

variable {entropy : Entropy} {r : Registrar Store} {projectId : EntityId} {task : Task}
  {p p' : Progress Store}

/-- What a registrar is told of a creation is what the registry answers. -/
theorem create_eq_ok (hsession : r.session = Store.session entropy) {name : String}
    {request : CreateRequest} {s s' : Store} {id : EntityId} :
    r.create name request s = (.ok id, s') ↔
      ∃ entity, entity.guid = id ∧
        s.create entropy request.path (.obj request.body) (r.headers s) = (.ok entity, s') := by
  unfold create
  rw [create_of_session hsession]
  split <;> simp_all

theorem create_of_error (hsession : r.session = Store.session entropy) {name : String}
    {request : CreateRequest} {s s' : Store} {cause : TransportError}
    (h : s.create entropy request.path (.obj request.body) (r.headers s) = (.error cause, s')) :
    r.create name request s = (.error (.registrationFailed name cause), s') := by
  unfold create
  rw [create_of_session hsession, h]

theorem isOf_of_create (hsession : r.session = Store.session entropy) {name : String}
    {request : CreateRequest} {s s' : Store} {g : Graph} {id : EntityId}
    (hrequest : task.request g projectId = .ok request)
    (hcreate : r.create name request s = (.ok id, s')) : task.IsOf g := by
  obtain ⟨entity, -, hstore⟩ := (create_eq_ok hsession).1 hcreate
  obtain ⟨creation, hcall⟩ := Store.ofCall_of_create hstore
  rcases Creation.ofCall_cases hcall with ⟨_, -, hfinds⟩ | ⟨d, -, hd⟩
  · exact absurd hfinds.1 (Task.path_ne_projects (Task.asks_of_request hrequest))
  · exact Task.isOf_of_name (Task.name_ne_empty (Task.asks_of_request hrequest) hd)

/-- A task that is performed is done then, and so is every task that was done before. -/
theorem isDone_of_perform (hsession : r.session = Store.session entropy)
    (h : r.perform projectId task p = (.ok (), p')) :
    task.isDone r.project p'.graph = true ∧ p.graph.Advances p'.graph ∧
      ∀ other : Task, other.isDone r.project p.graph = true →
        other.isDone r.project p'.graph = true := by
  rcases perform_ok h with ⟨hdone, rfl⟩ | ⟨-, request, id, hrequest, hcreate, hgraph⟩
  · exact ⟨hdone, .refl _, fun _ hother => hother⟩
  · have hof := isOf_of_create hsession hrequest hcreate
    rw [hgraph]
    exact ⟨Task.isDone_register_self hof _ _, Task.advances_register _ _ _,
      fun other hother => Task.isDone_register hof hother id⟩

/-- Tasks that have been performed are done. -/
theorem isDone_of_performAll (hsession : r.session = Store.session entropy) {tasks : List Task}
    (h : r.performAll projectId tasks p = (.ok (), p')) :
    (∀ task ∈ tasks, task.isDone r.project p'.graph = true) ∧ p.graph.Advances p'.graph ∧
      ∀ other : Task, other.isDone r.project p.graph = true →
        other.isDone r.project p'.graph = true := by
  induction tasks generalizing p with
  | nil =>
    obtain rfl := (Prod.mk.inj h).2
    exact ⟨by simp, .refl _, fun _ hother => hother⟩
  | cons task rest ih =>
    rw [performAll] at h
    split at h
    · rename_i q hperform
      obtain ⟨hdone, hadvances, hkeeps⟩ := isDone_of_perform hsession hperform
      obtain ⟨hdones, hadvances', hkeeps'⟩ := ih h
      exact ⟨List.forall_mem_cons.2 ⟨hkeeps' _ hdone, hdones⟩, hadvances.trans hadvances',
        fun other hother => hkeeps' other (hkeeps other hother)⟩
    · simp at h

/-- A project that has been created or found has a name. -/
theorem isNamed_projectRequest {s s' : Store} {entity : CreatedEntity}
    (h : s.create entropy r.projectRequest.path (.obj r.projectRequest.body) (r.headers s) =
      (.ok entity, s')) : Bag.IsNamed r.projectRequest.body r.project := by
  obtain ⟨creation, hcall⟩ := Store.ofCall_of_create h
  obtain ⟨name, hname, -⟩ := bind_eq_ok.1 hcall
  obtain rfl : r.project = name := Option.some.inj (Creation.requiredText_eq_ok.1 hname).1
  exact Creation.isNamed_of_requiredText hname

theorem keeps_drawn (hsession : r.session = Store.session entropy) (n : Nat) :
    r.Keeps fun s => n ≤ s.drawn := by
  intro request s _ h
  rw [create_of_session hsession]
  exact Nat.le_trans h (Store.answers_create _ _ _ _ _).drawn

theorem drawn_performAll (hsession : r.session = Store.session entropy) {tasks : List Task}
    (h : r.performAll projectId tasks p = (.ok (), p')) : p.state.drawn ≤ p'.state.drawn :=
  (keeps_drawn hsession p.state.drawn).of_performAll h (Nat.le_refl _)

theorem keeps_token (hsession : r.session = Store.session entropy) (token : Option String) :
    r.Keeps fun s => s.token = token := by
  intro request s _ h
  rw [create_of_session hsession]
  exact (Store.answers_create _ _ _ _ _).keeps.token.trans h

theorem since_perform (hsession : r.session = Store.session entropy)
    (hs : p.state.contents.Sound) (h : r.perform projectId task p = (.ok (), p')) :
    Store.Since entropy p.state p'.state := by
  rcases perform_ok h with ⟨-, rfl⟩ | ⟨-, request, id, -, hcreate, -⟩
  · exact .refl entropy p.state
  · obtain ⟨entity, -, hstore⟩ := (create_eq_ok hsession).1 hcreate
    exact (Store.Since.refl entropy p.state).create hs hstore

end Registrar

end FeatureCatalog
