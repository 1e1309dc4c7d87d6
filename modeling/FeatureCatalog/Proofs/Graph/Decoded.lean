import FeatureCatalog.Proofs.Graph.Complaint
import FeatureCatalog.Proofs.Graph.Linked
import FeatureCatalog.Proofs.Registration.Again
import FeatureCatalog.Proofs.Source.RoundTrip

/-! Graphs that have been read from a project. All keys of such a graph are its own, every entity in
it is registered under the id and the qualified name that the registry gives it, and every source in
it can be written, so that nothing is left to register. -/

namespace FeatureCatalog

namespace Graph

variable {g : Graph} {payload : ProjectPayload}

/-- The graph has been read from the contents of a project. -/
structure DecodedFrom (g : Graph) (payload : ProjectPayload) : Prop where
  closed : g.Closed
  ordered : ∃ order, g.order g.derivedKeys = .ok order
  sources : ∀ s ∈ g.sources, ∃ id e, (id, e) ∈ payload.entities.entries ∧
    (Part.source s).ReadFrom id e
  anchors : ∀ a ∈ g.anchors, a.registration.isSome
  features : ∀ f ∈ g.features, f.registration.isSome
  derived : ∀ d ∈ g.derived, d.registration.isSome

theorem decodedFrom_of_ofPayload (h : ofPayload payload = .ok g) : g.DecodedFrom payload := by
  have hlinked := linkedFrom_of_ofPayload h
  obtain ⟨-, -, -, -, -, -, -, hordered⟩ := ofPayload_eq_ok_iff.1 h
  refine ⟨hlinked.closed, hordered, fun s hs => ?_, fun a ha => ?_, fun f hf => ?_, fun d hd => ?_⟩
  · obtain ⟨e, he, hread⟩ := exists_of_forall₂ hlinked.sources hs
    exact ⟨e.1, e.2, List.mem_of_mem_filter he, hread⟩
  · obtain ⟨e, -, r, read, -, ha⟩ := exists_of_forall₂ hlinked.anchors ha
    rw [ha.registration]
    rfl
  · obtain ⟨e, -, hread⟩ := exists_of_forall₂ hlinked.features hf
    cases hread with
    | feature => rfl
  · obtain ⟨e, -, read, hread, hd⟩ := exists_of_forall₂ hlinked.derived hd
    rw [hd.body, DerivedFeature.registration_addInputs]
    cases hread with
    | derived => rfl

namespace DecodedFrom

variable (h : g.DecodedFrom payload) {task : Task}
include h

theorem readFrom_source {k : SourceKey} (hk : k.index < g.sources.length) :
    ∃ id e, (id, e) ∈ payload.entities.entries ∧ (Part.source (g.source k)).ReadFrom id e :=
  h.sources _ (getD_mem g.sources default hk)

/-- Every entity of the graph is registered. -/
theorem isSome_registration? (hof : task.IsOf g) : (task.registration? g).isSome := by
  cases task with
  | source k =>
    obtain ⟨id, e, -, hread⟩ := h.readFrom_source hof
    generalize hs : g.source k = s at hread
    cases hread with
    | source => simp [Task.registration?, hs]
  | anchor k => exact h.anchors _ (getD_mem g.anchors default hof)
  | feature owner k => exact h.features _ (getD_mem g.features default hof)
  | derived k => exact h.derived _ (getD_mem g.derived default hof)

/-- Nothing in the graph stands in the way of a registration, which has no task but those of
entities of the graph. -/
theorem exists_plan : ∃ tasks, g.plan = .ok tasks ∧ ∀ task ∈ tasks, task.IsOf g := by
  obtain ⟨order, horder⟩ := h.ordered
  refine ⟨_, plan_eq_ok.2 ⟨order, horder, ?_, ?_, rfl⟩,
    fun task htask => h.closed.isOf_of_mem_tasks horder htask⟩
  · intro d hd k hk
    have hof : (Task.feature ⟨0⟩ k).IsOf g := h.closed.anchoredInputs d hd k hk
    exact Bool.or_eq_true_iff.2 (.inl (h.isSome_registration? hof))
  · intro a ha
    obtain ⟨id, e, -, hread⟩ := h.readFrom_source (h.closed.sources a ha)
    generalize g.source a.source = s at hread
    cases hread with
    | source _ _ hdecode => exact (Source.writable_of_decode hdecode).1

/-- All entities of the graph are done in a project, if its context sources are called after that
project. -/
theorem isDone {project : String}
    (hcontext : ∀ s ∈ g.sources, ∀ r, s.registration = some r → s.isContext = true →
      r.qualifiedName = qualifiedName project [s.name])
    (hof : task.IsOf g) : task.isDone project g = true := by
  have hregistered := h.isSome_registration? hof
  cases task with
  | anchor | feature | derived => exact hregistered
  | source k =>
    obtain ⟨r, hr⟩ := Option.isSome_iff_exists.1 hregistered
    have hmem : g.source k ∈ g.sources := getD_mem g.sources default hof
    have hreusable : Task.isReusable project (g.source k) r = true := by
      unfold Task.isReusable
      cases hkind : (g.source k).isContext with
      | false => rfl
      | true => simp [hcontext _ hmem r hr hkind]
    change ((g.source k).registration.map _).getD false = true
    rw [show (g.source k).registration = some r from hr]
    exact hreusable

end DecodedFrom

end Graph

end FeatureCatalog
