import FeatureCatalog.Proofs.Registration.Reached

/-! What requests refer to. When a run asks for an entity, all that the entity refers to is done, so
its ids are known, and they stay what they are to the end of the run. -/

namespace FeatureCatalog

namespace Task

variable {g g' : Graph} {projectId : EntityId} {task : Task}

theorem references_congr (h : g'.unregistered = g.unregistered) (task : Task) :
    task.references g' = task.references g := by
  cases task with
  | source | feature => rfl
  | anchor k =>
    have hsource : (g'.anchor k).source = (g.anchor k).source :=
      (congrArg Anchor.source (Graph.anchor_congr h k) :)
    rw [references, references, hsource]
  | derived k =>
    have hinputs : (g'.derivedFeature k).inputs = (g.derivedFeature k).inputs :=
      (congrArg DerivedFeature.inputs (Graph.derivedFeature_congr h k) :)
    rw [references, references, hinputs]

/-- The ids of inputs are known exactly if each input is registered, and they are those ids. -/
theorem inputIds_eq_ok_iff {user : String} {inputs : List FeatureRef} {ids : List EntityId} :
    inputIds g user inputs = .ok ids ↔
      List.Forall₂ (fun input id => ∃ r, (ofInput input).registration? g = some r ∧ r.id = id)
        inputs ids := by
  induction inputs generalizing ids with
  | nil => simp [inputIds, eq_comm]
  | cons input rest ih =>
    rw [inputIds, List.forall₂_cons_left_iff, bind_eq_ok]
    simp only [idFor_eq_ok, bind_eq_ok, return_eq_ok, ih, registration?_ofInput]
    constructor
    · rintro ⟨id, hid, ids, hids, rfl⟩
      exact ⟨id, ids, hid, hids, rfl⟩
    · rintro ⟨id, ids, hid, hids, rfl⟩
      exact ⟨id, hid, ids, hids, rfl⟩

theorem exists_inputIds_iff {user : String} {inputs : List FeatureRef} :
    (∃ ids, inputIds g user inputs = .ok ids) ↔
      ∀ input ∈ inputs, ((ofInput input).registration? g).isSome := by
  induction inputs with
  | nil => simp [inputIds]
  | cons input rest ih =>
    rw [List.forall_mem_cons, ← ih]
    simp only [inputIds_eq_ok_iff, List.forall₂_cons_left_iff, Option.isSome_iff_exists]
    constructor
    · rintro ⟨_, id, ids, ⟨r, hr, -⟩, hids, -⟩
      exact ⟨⟨r, hr⟩, ids, hids⟩
    · rintro ⟨⟨r, hr⟩, ids, hids⟩
      exact ⟨_, r.id, ids, ⟨r, hr, rfl⟩, hids, rfl⟩

/-- A request can be made where all that the entity refers to is registered, and the entity, if it is
a source, has no reserved option. -/
theorem exists_request (hreferences : ∀ ref ∈ task.references g, (ref.registration? g).isSome)
    (hsource : ∀ k, task = .source k → (g.source k).kind.reservedKey? = none) :
    ∃ request, task.request g projectId = .ok request := by
  cases task with
  | source k =>
    have hbody : (g.source k).encode = .ok (g.source k).bag :=
      Source.encode_eq_ok.2 ⟨hsource k rfl, rfl⟩
    exact ⟨_, bind_eq_ok.2 ⟨_, hbody, rfl⟩⟩
  | anchor k =>
    obtain ⟨r, hr⟩ := Option.isSome_iff_exists.1 (hreferences _ List.mem_cons_self)
    exact ⟨_, bind_eq_ok.2 ⟨_, idFor_eq_ok.2 ⟨r, hr, rfl⟩, rfl⟩⟩
  | feature owner k =>
    obtain ⟨r, hr⟩ := Option.isSome_iff_exists.1 (hreferences _ List.mem_cons_self)
    exact ⟨_, bind_eq_ok.2 ⟨_, idFor_eq_ok.2 ⟨r, hr, rfl⟩, rfl⟩⟩
  | derived k =>
    have hinputs : ∀ input ∈ (g.derivedFeature k).inputs,
        ((ofInput input).registration? g).isSome :=
      fun input hinput => hreferences _ (List.mem_map_of_mem hinput)
    obtain ⟨anchored, hanchored⟩ :=
      exists_inputIds_iff.2 fun input hinput => hinputs input (List.mem_append_left _ hinput)
    obtain ⟨derived, hderived⟩ :=
      exists_inputIds_iff.2 fun input hinput => hinputs input (List.mem_append_right _ hinput)
    exact ⟨_, bind_eq_ok.2 ⟨_, hanchored, bind_eq_ok.2 ⟨_, hderived, rfl⟩⟩⟩

end Task

namespace Registrar

variable {σ : Type} {r : Registrar σ} {g g' : Graph} {projectId : EntityId} {es : List (Exchange σ)}
  {own ref : Task} {request : CreateRequest} {id : EntityId}

/-- When a run comes to a task of its plan, what the task refers to is done. -/
theorem Reached.isDone_reference {next : σ} {done rest : List Task} {q : Progress σ}
    (h : r.Reached projectId ⟨next, g, 0, 0⟩ done es q) (hplan : g.plan = .ok (done ++ own :: rest))
    (href : ref ∈ own.references g) (hof : ref.IsOf g) :
    ref.isDone r.project q.graph = true := by
  obtain ⟨order, horder, hinputs, -, htasks⟩ := Graph.plan_eq_ok.1 hplan
  rcases Graph.exists_done_of_reference (Graph.isOrder_of_order horder) hinputs htasks href with
    ⟨other, hother, hslot⟩ | ⟨k, rfl, hregistered⟩
  · have hof' : other.IsOf g := by rwa [← Task.isOf_slot, hslot, Task.isOf_slot]
    have hdone := h.isDone hother hof'
    rwa [← Task.isDone_slot, hslot, Task.isDone_slot] at hdone
  · exact h.onward.isDone hregistered

/-- The id is that of the entity of the task in `g'`, and it was so in `g`, or a creation of the
entity among `es` has given it out. -/
def Carries (g g' : Graph) (es : List (Exchange σ)) (task : Task) (id : EntityId) : Prop :=
  (task.registration? g').map (·.id) = some id ∧
    ((task.registration? g).map (·.id) = some id ∨ ∃ x ∈ es, x.IsFor task ∧ x.id? = some id)

/-- What a request for the entity of a task refers to: entities with the ids that they have in the
end, which were known when the creations `es` had been answered. -/
inductive Refers (g g' : Graph) (projectId : EntityId) (es : List (Exchange σ)) :
    Task → CreateRequest → Prop
  | source {k body} :
      Refers g g' projectId es (.source k) ⟨["projects", projectId.text, "datasources"], body⟩
  | anchor {k source body} : Carries g g' es (.source (g.anchor k).source) source →
      Entries.get? "sourceId" body = some source.toJson →
      Refers g g' projectId es (.anchor k) ⟨["projects", projectId.text, "anchors"], body⟩
  | feature {owner k anchor body} : owner ∈ g.anchorKeys → k ∈ (g.anchor owner).features →
      Carries g g' es (.anchor owner) anchor →
      Refers g g' projectId es (.feature owner k)
        ⟨["projects", projectId.text, "anchors", anchor.text, "features"], body⟩
  | derived {k anchored derived body} :
      List.Forall₂ (fun input id => Carries g g' es (.ofInput input) id)
        ((g.derivedFeature k).anchoredInputs.map .anchored) anchored →
      List.Forall₂ (fun input id => Carries g g' es (.ofInput input) id)
        ((g.derivedFeature k).derivedInputs.map .derived) derived →
      Entries.get? "inputAnchorFeatures" body = some (.arr (anchored.map EntityId.toJson)) →
      Entries.get? "inputDerivedFeatures" body = some (.arr (derived.map EntityId.toJson)) →
      Refers g g' projectId es (.derived k) ⟨["projects", projectId.text, "derivedfeatures"], body⟩

/-- An id that a run comes to know before a task refers to it stays what it is. -/
theorem Reached.carries {next : σ} {done rest : List Task} {q : Progress σ}
    (h : r.Reached projectId ⟨next, g, 0, 0⟩ done es q) (hplan : g.plan = .ok (done ++ own :: rest))
    (honward : q.graph.Onward r.project g') (href : ref ∈ own.references g)
    (hid : ∃ registration, ref.registration? q.graph = some registration ∧ registration.id = id) :
    Carries g g' es ref id := by
  obtain ⟨registration, hregistration, rfl⟩ := hid
  have hof : ref.IsOf g := by
    rw [← Task.isOf_congr h.onward.unregistered]
    exact Task.isOf_of_registration (Option.isSome_iff_exists.2 ⟨_, hregistration⟩)
  have hdone := h.isDone_reference hplan href hof
  refine ⟨?_, ?_⟩
  · rw [honward.registration ref hdone, hregistration]
    rfl
  -- Either the run has created the entity, or the registration is the one from before the run.
  by_cases hfor : ∃ e ∈ es, e.IsFor ref
  · obtain ⟨e, he, other, hother, hslot⟩ := hfor
    obtain ⟨other', id, hother', hid, hcreated⟩ := h.registration? he
    obtain rfl := Option.some.inj (hother.symm.trans hother')
    have hof' : other.IsOf g := by rwa [← Task.isOf_slot, hslot, Task.isOf_slot]
    have hsame := hcreated hof'
    rw [← Task.registration?_slot, hslot, Task.registration?_slot, hregistration] at hsame
    obtain rfl := Option.some.inj hsame
    exact .inr ⟨e, he, ⟨other, hother, hslot⟩, hid⟩
  · have hsame : ref.registration? q.graph = ref.registration? g :=
      h.registration?_of_not_isFor fun e he hfor' => hfor ⟨e, he, hfor'⟩
    rw [← hsame, hregistration]
    exact .inl rfl

theorem Moment.refers (h : r.Moment g g' projectId es own request) :
    Refers g g' projectId es own request := by
  obtain @⟨next, done, rest, q, hplan, hreached, -, hrequest, honward⟩ := h
  have hunregistered : q.graph.unregistered = g.unregistered := hreached.onward.unregistered
  obtain ⟨order, -, -, -, htasks⟩ := Graph.plan_eq_ok.1 hplan
  have hown : own ∈ g.tasks order := by simp [htasks]
  cases Task.asks_of_request hrequest with
  | source => exact .source
  | @anchor k registration hregistration =>
    have hsource : (q.graph.anchor k).source = (g.anchor k).source :=
      (congrArg Anchor.source (Graph.anchor_congr hunregistered k) :)
    rw [hsource] at hregistration
    exact .anchor
      (hreached.carries hplan honward List.mem_cons_self ⟨registration, hregistration, rfl⟩) rfl
  | @feature owner k registration hregistration =>
    obtain ⟨howner, hlists⟩ := Graph.mem_tasks.1 hown
    exact .feature howner hlists
      (hreached.carries hplan honward List.mem_cons_self ⟨registration, hregistration, rfl⟩)
  | @derived k anchored derived hanchored hderived =>
    have hcarries : ∀ inputs ids, (∀ input ∈ inputs, input ∈ (g.derivedFeature k).inputs) →
        Task.inputIds q.graph (q.graph.derivedFeature k).name inputs = .ok ids →
        List.Forall₂ (fun input id => Carries g g' es (.ofInput input) id) inputs ids := by
      intro inputs ids hinputs hids
      refine ((List.forall₂_and_left _ _).2 ⟨hinputs, Task.inputIds_eq_ok_iff.1 hids⟩).imp ?_
      rintro input id ⟨hinput, hid⟩
      exact hreached.carries hplan honward (List.mem_map_of_mem hinput) hid
    have hanchoredInputs : (q.graph.derivedFeature k).anchoredInputs =
        (g.derivedFeature k).anchoredInputs :=
      (congrArg DerivedFeature.anchoredInputs (Graph.derivedFeature_congr hunregistered k) :)
    have hderivedInputs : (q.graph.derivedFeature k).derivedInputs =
        (g.derivedFeature k).derivedInputs :=
      (congrArg DerivedFeature.derivedInputs (Graph.derivedFeature_congr hunregistered k) :)
    rw [hanchoredInputs] at hanchored
    rw [hderivedInputs] at hderived
    refine .derived (hcarries _ _ (fun _ => List.mem_append_left _) hanchored)
      (hcarries _ _ (fun _ => List.mem_append_right _) hderived) ?_ ?_
    · exact (q.graph.derivedFeature k).body.get?_bag _ _
    · exact (q.graph.derivedFeature k).body.get?_bag _ _

theorem Refers.second_segment (h : Refers g g' projectId es own request) :
    request.path[1]? = some projectId.text := by
  cases h <;> rfl

/-- A registration sends no id that is not known yet, and none that the graph no longer has in the
end. The first creation is that of the project. Each other one is sent to the project that the first
has given out, and what it refers to has the ids that it has when the run ends, whether that fails or
not; they were in the graph before the run, or creations before this one have given them out. -/
theorem register_refers_to_known (r : Registrar σ) (g : Graph) (state : σ) :
    r.log g state = (r.transcript g state).map (·.call r.headers) ∧
    ∀ before e after, r.transcript g state = before ++ e :: after →
      (before = [] ∧ e.task? = none ∧ e.request = r.projectRequest) ∨
      ∃ own project es, e.task? = some own ∧
        before = ⟨none, r.projectRequest, state, .ok project⟩ :: es ∧
        e.request.path[1]? = some project.guid.text ∧
        Refers g (r.register g state).2.1 project.guid es own e.request := by
  refine ⟨log_eq g state, fun before e after hsplit => ?_⟩
  rcases moment_of_transcript hsplit with hfirst | ⟨own, project, es, hown, rfl, hmoment⟩
  · exact .inl hfirst
  · have hrefers := hmoment.refers
    exact .inr ⟨own, project, es, hown, rfl, hrefers.second_segment, hrefers⟩

end Registrar

end FeatureCatalog
