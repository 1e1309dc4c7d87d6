import FeatureCatalog.Proofs.Registration.Precedence
import FeatureCatalog.Proofs.Registration.Transcript

/-! What holds of the progress that a run has reached. What was done stays registered as it was; what
has been created is registered with the id that was given out; nothing else has changed; and a
creation is asked for only where the entity is not done, so once at most. -/

namespace FeatureCatalog

namespace Task

variable {g : Graph} {task : Task} {project : String} {r : Registration}

theorem isOf_slot (task : Task) (g : Graph) : task.slot.IsOf g ↔ task.IsOf g := by
  cases task <;> rfl

theorem isDone_of_qualifiedName
    (h : task.registration? g = some r) (hname : r.qualifiedName = task.qualifiedName project g) :
    task.isDone project g = true := by
  cases task with
  | source k =>
    have hregistration : (g.source k).registration = some r := h
    rw [isDone_source, hregistration, Option.map_some, Option.getD_some, isReusable, hname]
    simp [qualifiedName, name]
  | anchor | feature | derived => exact Option.isSome_iff_exists.2 ⟨_, h⟩

/-- A registered entity is done, unless it is a context source that is registered under another name
than it has in the project. -/
theorem stale_of_not_isDone (h : task.registration? g = some r)
    (hdone : task.isDone project g = false) : ∃ k, task = .source k ∧
      (g.source k).isContext = true ∧
      r.qualifiedName ≠ FeatureCatalog.qualifiedName project [(g.source k).name] := by
  cases task with
  | source k =>
    have hregistration : (g.source k).registration = some r := h
    rw [isDone_source, hregistration, Option.map_some, Option.getD_some, isReusable] at hdone
    exact ⟨k, rfl, by simpa using hdone⟩
  | anchor | feature | derived =>
    exact absurd ((congrArg Option.isSome h).symm.trans hdone) (by simp)

theorem isSome_of_isDone (h : task.isDone project g = true) : (task.registration? g).isSome := by
  cases task with
  | source k =>
    rw [isDone_source] at h
    cases hr : (g.source k).registration with
    | none => simp [hr] at h
    | some r => exact Option.isSome_iff_exists.2 ⟨r, hr⟩
  | anchor | feature | derived => exact h

end Task

/-- `g'` is what a run for the project makes of `g`: what was done is registered as before, and other
than registrations nothing has changed. -/
structure Graph.Onward (project : String) (g g' : Graph) : Prop where
  unregistered : g'.unregistered = g.unregistered
  registration : ∀ task : Task, task.isDone project g = true →
    task.registration? g' = task.registration? g

namespace Graph.Onward

variable {project : String} {g g' g'' : Graph} {task : Task}

theorem refl (project : String) (g : Graph) : g.Onward project g := ⟨rfl, fun _ _ => rfl⟩

theorem isDone (h : g.Onward project g') (hdone : task.isDone project g = true) :
    task.isDone project g' = true := by
  rwa [Task.isDone_congr h.unregistered (h.registration task hdone)]

theorem trans (h : g.Onward project g') (h' : g'.Onward project g'') : g.Onward project g'' where
  unregistered := h'.unregistered.trans h.unregistered
  registration task hdone :=
    (h'.registration task (h.isDone hdone)).trans (h.registration task hdone)

theorem register (hdone : task.isDone project g = false) (r : Registration) :
    g.Onward project (task.register g r) where
  unregistered := task.unregistered_register g r
  registration other hother := by
    refine Task.registration?_register_ne (fun hslot => ?_) r
    rw [← Task.isDone_slot, ← hslot, Task.isDone_slot, hdone] at hother
    cases hother

end Graph.Onward

/-- A place in a list with one element more is at the end or in the list before. -/
theorem concat_eq_append_cons {α : Type} {l before after : List α} {x e : α}
    (h : l ++ [x] = before ++ e :: after) :
    (l = before ∧ x = e) ∨ ∃ after', l = before ++ e :: after' := by
  rcases List.eq_nil_or_concat after with rfl | ⟨after', last, rfl⟩
  · obtain ⟨hl, hx⟩ := List.append_inj' h rfl
    exact .inl ⟨hl, List.singleton_inj.1 hx⟩
  · have hsplit : l ++ [x] = (before ++ e :: after') ++ [last] := by simpa using h
    exact .inr ⟨after', (List.append_inj' hsplit rfl).1⟩

namespace Registrar

variable {σ : Type} {r : Registrar σ} {projectId : EntityId} {p₀ p : Progress σ}
  {done : List Task} {es : List (Exchange σ)} {task : Task}

namespace Reached

theorem onward (h : r.Reached projectId p₀ done es p) : p₀.graph.Onward r.project p.graph := by
  induction h with
  | start => exact .refl _ _
  | skipped _ _ ih => exact ih
  | created _ hdone _ _ ih => exact ih.trans (.register hdone _)

theorem isDone (h : r.Reached projectId p₀ done es p) (htask : task ∈ done)
    (hof : task.IsOf p₀.graph) : task.isDone r.project p.graph = true := by
  induction h with
  | start => cases htask
  | skipped _ hdone ih =>
    rcases List.mem_append.1 htask with htask | htask
    · exact ih htask
    · obtain rfl := List.mem_singleton.1 htask
      exact hdone
  | created h hdone _ _ ih =>
    rcases List.mem_append.1 htask with htask | htask
    · exact (Graph.Onward.register hdone _).isDone (ih htask)
    · obtain rfl := List.mem_singleton.1 htask
      exact Task.isDone_register_self ((Task.isOf_congr h.onward.unregistered _).2 hof) _ _

/-- What has been created is registered with the id that was given out. -/
theorem registration? (h : r.Reached projectId p₀ done es p) {e : Exchange σ} (he : e ∈ es) :
    ∃ own id, e.task? = some own ∧ e.id? = some id ∧
      (own.IsOf p₀.graph →
        own.registration? p.graph = some ⟨id, own.qualifiedName r.project p₀.graph⟩) := by
  induction h with
  | start => cases he
  | skipped _ _ ih => exact ih he
  | @created done es p task request entity state h hdone _ _ ih =>
    rcases List.mem_append.1 he with he | he
    · obtain ⟨own, id, hown, hid, hregistration⟩ := ih he
      refine ⟨own, id, hown, hid, fun hof => ?_⟩
      -- The entity created before is done, so the one that is created now is another.
      have hdone' : own.isDone r.project p.graph = true := by
        refine Task.isDone_of_qualifiedName (hregistration hof) ?_
        exact (Task.qualifiedName_congr h.onward.unregistered _ _).symm
      exact ((Graph.Onward.register hdone _).registration own hdone').trans (hregistration hof)
    · obtain rfl := List.mem_singleton.1 he
      refine ⟨task, entity.guid, rfl, rfl, fun hof => ?_⟩
      rw [← Task.qualifiedName_congr h.onward.unregistered]
      exact Task.registration?_register_self ((Task.isOf_congr h.onward.unregistered _).2 hof) _

theorem isDone_of_isFor (h : r.Reached projectId p₀ done es p) {e : Exchange σ} (he : e ∈ es)
    (hfor : e.IsFor task) (hof : task.IsOf p₀.graph) : task.isDone r.project p.graph = true := by
  obtain ⟨own, id, hown, -, hregistration⟩ := h.registration? he
  obtain ⟨own', hown', hslot⟩ := hfor
  obtain rfl := Option.some.inj (hown.symm.trans hown')
  have hof' : own.IsOf p₀.graph := by rwa [← Task.isOf_slot, hslot, Task.isOf_slot]
  rw [← Task.isDone_slot, ← hslot, Task.isDone_slot]
  exact Task.isDone_of_qualifiedName (hregistration hof')
    (Task.qualifiedName_congr h.onward.unregistered _ _).symm

theorem registration?_of_not_isFor (h : r.Reached projectId p₀ done es p)
    (hnot : ∀ e ∈ es, ¬e.IsFor task) : task.registration? p.graph = task.registration? p₀.graph := by
  induction h with
  | start => rfl
  | skipped _ _ ih => exact ih hnot
  | @created _ _ _ own _ _ _ _ _ _ _ ih =>
    rw [← ih fun e he => hnot e (List.mem_append_left _ he)]
    exact Task.registration?_register_ne
      (fun hslot => hnot _ (List.mem_append_right _ List.mem_cons_self) ⟨own, rfl, hslot⟩) _

theorem not_isFor_of_not_isDone (h : r.Reached projectId p₀ done es p) {own : Task}
    (hdone : own.isDone r.project p.graph = false) {e : Exchange σ} (he : e ∈ es)
    (hof : task.IsOf p₀.graph) (hslot : own.slot = task.slot) : ¬e.IsFor task := by
  intro hfor
  have hdone' := h.isDone_of_isFor he hfor hof
  rw [← Task.isDone_slot, ← hslot, Task.isDone_slot, hdone] at hdone'
  cases hdone'

/-- No two creations are of the same entity. -/
theorem pairwise (h : r.Reached projectId p₀ done es p) :
    es.Pairwise fun x y => ∀ task : Task, task.IsOf p₀.graph → x.IsFor task → ¬y.IsFor task := by
  induction h with
  | start => exact List.Pairwise.nil
  | skipped _ _ ih => exact ih
  | created h hdone _ _ ih =>
    refine List.pairwise_append.2 ⟨ih, List.pairwise_singleton _ _, ?_⟩
    intro x hx y hy task hof hfor hfor'
    obtain rfl := List.mem_singleton.1 hy
    obtain ⟨own, hown, hslot⟩ := hfor'
    obtain rfl := Option.some.inj hown
    exact h.not_isFor_of_not_isDone hdone hx hof hslot hfor

/-- Each creation was asked for at a progress that the run had reached, where the entity was not
done. -/
theorem of_exchange (h : r.Reached projectId p₀ done es p) {before after : List (Exchange σ)}
    {e : Exchange σ} (hes : es = before ++ e :: after) :
    ∃ pre own post q, done = pre ++ own :: post ∧ e.task? = some own ∧
      r.Reached projectId p₀ pre before q ∧ own.isDone r.project q.graph = false ∧
      own.request q.graph projectId = .ok e.request ∧ q.graph.Onward r.project p.graph := by
  induction h generalizing after with
  | start => simp at hes
  | @skipped done es p task _ _ ih =>
    obtain ⟨pre, own, post, q, rfl, hown, hq, hdone, hrequest, honward⟩ := ih hes
    exact ⟨pre, own, post ++ [task], q, by simp, hown, hq, hdone, hrequest, honward⟩
  | @created done es p task request entity state h hdone hrequest _ ih =>
    have honward : p.graph.Onward r.project
        (task.register p.graph ⟨entity.guid, task.qualifiedName r.project p.graph⟩) :=
      .register hdone _
    -- The creation is the last one, or one of those that the hypothesis is about.
    rcases concat_eq_append_cons hes with ⟨rfl, rfl⟩ | ⟨after', hes'⟩
    · exact ⟨done, task, [], p, rfl, rfl, h, hdone, hrequest, honward⟩
    · obtain ⟨pre, own, post, q, rfl, hown, hq, hdone', hrequest', honward'⟩ := ih hes'
      exact ⟨pre, own, post ++ [task], q, by simp, hown, hq, hdone', hrequest',
        honward'.trans honward⟩

end Reached

/-- The moment of a run at which it asks for the entity of a task: the tasks before it have been
performed, asking for the creations `es`, and the entity is not done. The graph comes to be `g'`. -/
inductive Moment (r : Registrar σ) (g g' : Graph) (projectId : EntityId) (es : List (Exchange σ))
    (own : Task) (request : CreateRequest) : Prop
  | intro {next done rest q} : g.plan = .ok (done ++ own :: rest) →
      r.Reached projectId ⟨next, g, 0, 0⟩ done es q → own.isDone r.project q.graph = false →
      own.request q.graph projectId = .ok request → q.graph.Onward r.project g' →
      Moment r g g' projectId es own request

/-- A run halts on a creation that fails, of an entity that was not done, or on none. -/
theorem Halts.last_eq {rest : List Task} {last : List (Exchange σ)}
    {outcome : Except CatalogError Unit} {state : σ}
    (h : r.Halts projectId p rest last outcome state) :
    last = [] ∨ ∃ own rest' request cause, rest = own :: rest' ∧
      last = [⟨some own, request, p.state, .error cause⟩] ∧ own.isDone r.project p.graph = false ∧
      own.request p.graph projectId = .ok request := by
  cases h with
  | finished | refused => exact .inl rfl
  | failed hdone hrequest => exact .inr ⟨_, _, _, _, rfl, rfl, hdone, hrequest⟩

/-- The first creation of a transcript is that of the project, and each other one has its moment. -/
theorem moment_of_transcript {g : Graph} {state : σ} {before after : List (Exchange σ)}
    {e : Exchange σ} (h : r.transcript g state = before ++ e :: after) :
    (before = [] ∧ e.task? = none ∧ e.request = r.projectRequest) ∨
      ∃ own entity es, e.task? = some own ∧
        before = ⟨none, r.projectRequest, state, .ok entity⟩ :: es ∧
        r.Moment g (r.register g state).2.1 entity.guid es own e.request := by
  have hcourse := r.course g state
  rw [h] at hcourse
  generalize htranscript : before ++ e :: after = es at hcourse
  generalize r.register g state = result at hcourse ⊢
  cases before with
  | nil =>
    cases hcourse with
    | refused => simp at htranscript
    | rejected | halted =>
      obtain rfl := (List.cons.inj htranscript).1
      exact .inl ⟨rfl, rfl, rfl⟩
  | cons first before =>
    cases hcourse with
    | refused | rejected => simp at htranscript
    | @halted entity next done rest es p last outcome state' hplan _ hreached hhalts =>
      obtain ⟨rfl, hes⟩ := List.cons.inj htranscript
      -- The creation is one of those that the run has been answered, or the one that it halts on.
      have hearlier : ∀ after, es = before ++ e :: after → ∃ own entity' es', e.task? = some own ∧
          ⟨none, r.projectRequest, state, .ok entity⟩ :: before =
            ⟨none, r.projectRequest, state, .ok entity'⟩ :: es' ∧
          r.Moment g p.graph entity'.guid es' own e.request := by
        intro after hsplit
        obtain ⟨pre, own, post, q, rfl, hown, hq, hdone, hrequest, honward⟩ :=
          hreached.of_exchange hsplit
        have hplan' : g.plan = .ok (pre ++ own :: (post ++ rest)) := by simpa using hplan
        exact ⟨own, entity, before, hown, rfl, .intro hplan' hq hdone hrequest honward⟩
      rcases hhalts.last_eq with rfl | ⟨own, rest', request, cause, rfl, rfl, hdone, hrequest⟩
      · exact .inr (hearlier after (by simpa using hes.symm))
      · rcases concat_eq_append_cons hes.symm with ⟨rfl, rfl⟩ | ⟨after', hsplit⟩
        · exact .inr ⟨own, entity, es, rfl, rfl, .intro hplan hreached hdone hrequest (.refl _ _)⟩
        · exact .inr (hearlier after' hsplit)

end Registrar

end FeatureCatalog
