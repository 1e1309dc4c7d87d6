import FeatureCatalog.Proofs.Client.Fetchable
import FeatureCatalog.Proofs.Registration.Failure

/-! Graphs that come from the empty one by additions and registrations. Whatever the sessions answer
and wherever runs fail, an entity is registered only where the entities that it refers to are, and so
no registered derived feature ever depends on a cycle. -/

namespace FeatureCatalog

namespace Task

/-- The entities that the entity of the task needs are registered. A feature needs the first of the
anchors that list it. -/
def IsSecured (g : Graph) : Task → Prop
  | .source _ => True
  | .anchor k => (g.source (g.anchor k).source).registration.isSome
  | .feature _ k => ∃ a, g.owningAnchor? k = some a ∧ (g.anchor a).registration.isSome
  | .derived k => ∀ input ∈ (g.derivedFeature k).inputs, (g.inputRegistration? input).isSome

theorem isSecured_slot (task : Task) (g : Graph) : task.slot.IsSecured g ↔ task.IsSecured g := by
  cases task <;> rfl

end Task

namespace Graph

variable {g g' : Graph}

/-! ### What stays as it is -/

/-- What is registered in `g` is so in `g'`, the owner of a feature stays its owner, and what is
registered in `g'` refers to the same entities as in `g`. -/
structure Retains (g g' : Graph) : Prop where
  registered : ∀ task : Task, (task.registration? g).isSome → (task.registration? g').isSome
  source : ∀ k, (g'.anchor k).registration.isSome → (g'.anchor k).source = (g.anchor k).source
  owner : ∀ {k a}, g.owningAnchor? k = some a → g'.owningAnchor? k = some a
  inputs : ∀ k, (g'.derivedFeature k).registration.isSome →
    (g'.derivedFeature k).inputs = (g.derivedFeature k).inputs

theorem Retains.isSome_input (h : g.Retains g') {input : FeatureRef}
    (hinput : (g.inputRegistration? input).isSome) : (g'.inputRegistration? input).isSome := by
  rw [← Task.registration?_ofInput] at hinput ⊢
  exact h.registered _ hinput

theorem Retains.isSecured (h : g.Retains g') {task : Task} (hsecured : task.IsSecured g)
    (hregistered : (task.registration? g').isSome) : task.IsSecured g' := by
  cases task with
  | source => trivial
  | anchor k =>
    show (g'.source (g'.anchor k).source).registration.isSome
    rw [h.source k hregistered]
    exact h.registered (.source _) hsecured
  | feature _ k =>
    obtain ⟨a, howner, ha⟩ := hsecured
    exact ⟨a, h.owner howner, h.registered (.anchor a) ha⟩
  | derived k =>
    show ∀ input ∈ (g'.derivedFeature k).inputs, (g'.inputRegistration? input).isSome
    rw [h.inputs k hregistered]
    exact fun input hinput => h.isSome_input (hsecured input hinput)

/-- The entities that a registered entity needs are registered, and what registered derived features
depend on is well-founded. -/
structure Secured (g : Graph) : Prop where
  needs : ∀ task : Task, (task.registration? g).isSome → task.IsSecured g
  founded : ∀ k, (g.derivedFeature k).registration.isSome → Acc g.IsInput k

namespace Secured

theorem registered_of_isInput {u k : DerivedKey} (h : (Task.derived k).IsSecured g)
    (hinput : g.IsInput u k) : (g.derivedFeature u).registration.isSome :=
  h (.derived u) (isInput_iff.1 hinput)

theorem isInput_of_retains (hretains : g.Retains g') {u k : DerivedKey}
    (hk : (g'.derivedFeature k).registration.isSome) (hinput : g'.IsInput u k) : g.IsInput u k := by
  rw [isInput_iff] at hinput ⊢
  rwa [← hretains.inputs k hk]

variable (h : g.Secured) (hretains : g.Retains g')
include h hretains

theorem acc_of_retains {k : DerivedKey} (hk : (g.derivedFeature k).registration.isSome) :
    Acc g'.IsInput k := by
  -- What the feature consumes is registered too, so nothing below it has changed.
  have hacc := h.founded k hk
  induction hacc with
  | intro k _ ih =>
    refine Acc.intro k fun u hinput => ?_
    have hk' : (g'.derivedFeature k).registration.isSome := hretains.registered (.derived k) hk
    have hinput' := isInput_of_retains hretains hk' hinput
    exact ih u hinput' (registered_of_isInput (h.needs (.derived k) hk) hinput')

/-- A graph stays secured if whatever is registered in the new graph could be registered in the old
one. -/
theorem of_retains
    (hnew : ∀ task : Task, (task.registration? g').isSome → task.IsSecured g) : g'.Secured where
  needs task htask := hretains.isSecured (hnew task htask) htask
  founded k hk := by
    refine Acc.intro k fun u hinput => ?_
    have hinput' := isInput_of_retains hretains hk hinput
    exact h.acc_of_retains hretains (registered_of_isInput (hnew (.derived k) hk) hinput')

end Secured

theorem secured_empty : empty.Secured where
  needs task htask := by
    have hof := Task.isOf_of_registration htask
    cases task <;> exact absurd hof (Nat.not_lt_zero _)
  founded k hk := by
    have hof : (Task.derived k).IsOf empty := Task.isOf_of_registration hk
    exact absurd hof (Nat.not_lt_zero _)

/-! ### Additions -/

/-- `g'` is `g` with something added: the registrations are what they were, and registered entities
refer to what they did. -/
structure Adds (g g' : Graph) : Prop where
  registration : ∀ task : Task, task.registration? g' = task.registration? g
  source : ∀ k, (g.anchor k).registration.isSome → (g'.anchor k).source = (g.anchor k).source
  owner : ∀ {k a}, g.owningAnchor? k = some a → g'.owningAnchor? k = some a
  inputs : ∀ k, (g.derivedFeature k).registration.isSome →
    (g'.derivedFeature k).inputs = (g.derivedFeature k).inputs

namespace Adds

theorem retains (h : g.Adds g') : g.Retains g' := by
  have hold : ∀ task : Task, (task.registration? g').isSome → (task.registration? g).isSome := by
    intro task htask
    rwa [← h.registration task]
  constructor
  · intro task htask
    rwa [h.registration task]
  · exact fun k hk => h.source k (hold (.anchor k) hk)
  · exact h.owner
  · exact fun k hk => h.inputs k (hold (.derived k) hk)

theorem secured (h : g.Adds g') (hg : g.Secured) : g'.Secured := by
  apply hg.of_retains h.retains
  intro task htask
  rw [h.registration task] at htask
  exact hg.needs task htask

end Adds

theorem registration_concat {α : Type} {f : α → Option Registration} {a d : α} (ha : f a = none)
    (hd : f d = none) (l : List α) (i : Nat) : f ((l ++ [a]).getD i d) = f (l.getD i d) := by
  rcases Nat.lt_or_ge i l.length with hi | hi
  · rw [List.getD_append _ _ _ _ hi]
  · rw [List.getD_append_right _ _ _ _ hi, List.getD_eq_default _ _ hi, hd]
    cases i - l.length with
    | zero => exact ha
    | succ => exact hd

theorem adds_addSource (g : Graph) {s : Source} (hs : s.registration = none) :
    g.Adds (g.addSource s).2 where
  registration task := by
    cases task with
    | source k => exact registration_concat hs rfl g.sources k.index
    | anchor | feature | derived => rfl
  source _ _ := rfl
  owner h := h
  inputs _ _ := rfl

theorem adds_addFeature (g : Graph) {f : Feature} (hf : f.registration = none) :
    g.Adds (g.addFeature f).2 where
  registration task := by
    cases task with
    | feature _ k => exact registration_concat hf rfl g.features k.index
    | source | anchor | derived => rfl
  source _ _ := rfl
  owner h := h
  inputs _ _ := rfl

theorem anchor_addAnchor (g : Graph) (a : Anchor) {k : AnchorKey} (hk : k.index < g.anchors.length) :
    (g.addAnchor a).2.anchor k = g.anchor k :=
  List.getD_append g.anchors [a] default k.index hk

theorem adds_addAnchor (g : Graph) {a : Anchor} (ha : a.registration = none) :
    g.Adds (g.addAnchor a).2 where
  registration task := by
    cases task with
    | anchor k => exact registration_concat ha rfl g.anchors k.index
    | source | feature | derived => rfl
  source k hk := by
    have hof : (Task.anchor k).IsOf g := Task.isOf_of_registration hk
    rw [anchor_addAnchor g a hof]
  owner := by
    intro k owner howner
    obtain ⟨hmem, hlists, hfirst⟩ := owningAnchor?_eq_some.1 howner
    have hlt : owner.index < g.anchors.length := mem_anchorKeys.1 hmem
    have hlength : g.anchors.length < (g.addAnchor a).2.anchors.length := by simp [addAnchor]
    rw [owningAnchor?_eq_some, mem_anchorKeys, anchor_addAnchor g a hlt]
    refine ⟨Nat.lt_trans hlt hlength, hlists, fun b hb => ?_⟩
    rw [anchor_addAnchor g a (Nat.lt_trans hb hlt)]
    exact hfirst b hb
  inputs _ _ := rfl

theorem adds_addDerived (g : Graph) {d : DerivedFeature} (hd : d.registration = none) :
    g.Adds (g.addDerived d).2 where
  registration task := by
    cases task with
    | derived k => exact registration_concat hd rfl g.derived k.index
    | source | anchor | feature => rfl
  source _ _ := rfl
  owner h := h
  inputs k hk := by
    have hof : (Task.derived k).IsOf g := Task.isOf_of_registration hk
    have hsame : (g.addDerived d).2.derivedFeature k = g.derivedFeature k :=
      List.getD_append g.derived [d] default k.index hof
    rw [hsame]

theorem addInput_eq_ok {k : DerivedKey} {input : FeatureRef} (h : g.addInput k input = .ok g') :
    ¬(g.derivedFeature k).registration.isSome ∧
      g' = { g with derived := g.derived.modify k.index (·.addInput input) } := by
  unfold addInput at h
  dsimp only at h
  split at h
  · cases h
  · rename_i hk
    exact ⟨hk, (Except.ok.inj h).symm⟩

theorem derivedFeature_addInput {k : DerivedKey} {input : FeatureRef}
    (h : g.addInput k input = .ok g') (u : DerivedKey) :
    g'.derivedFeature u = if k = u ∧ u.index < g.derived.length then
      (g.derivedFeature u).addInput input else g.derivedFeature u := by
  obtain ⟨-, rfl⟩ := addInput_eq_ok h
  unfold Graph.derivedFeature
  rw [getD_modify]
  cases k
  cases u
  simp

theorem adds_addInput {k : DerivedKey} {input : FeatureRef} (h : g.addInput k input = .ok g') :
    g.Adds g' := by
  have hderived := derivedFeature_addInput h
  obtain ⟨hk, rfl⟩ := addInput_eq_ok h
  constructor
  case registration =>
    intro task
    cases task with
    | derived u =>
      show (Graph.derivedFeature _ u).registration = (g.derivedFeature u).registration
      rw [hderived]
      split
      · cases input <;> rfl
      · rfl
    | source | anchor | feature => rfl
  case source => exact fun _ _ => rfl
  case owner => exact fun howner => howner
  case inputs =>
    intro u hu
    have hne : k ≠ u := by
      rintro rfl
      exact hk hu
    rw [hderived, if_neg fun hu' => hne hu'.1]

/-! ### Registrations -/

theorem Advances.retains (h : g.Advances g') : g.Retains g' where
  registered := h.registered
  source k _ := (congrArg Anchor.source (anchor_congr h.unregistered k) :)
  owner howner := by rwa [owningAnchor?_congr h.unregistered]
  inputs k _ := (congrArg DerivedFeature.inputs (derivedFeature_congr h.unregistered k) :)

theorem Secured.register (hg : g.Secured) {task : Task} (htask : task.IsSecured g)
    (r : Registration) : (task.register g r).Secured := by
  apply hg.of_retains (Task.advances_register task g r).retains
  intro other hother
  by_cases hslot : task.slot = other.slot
  · rwa [← Task.isSecured_slot, ← hslot, Task.isSecured_slot]
  · rw [Task.registration?_register_ne hslot] at hother
    exact hg.needs other hother

end Graph

/-- A request can be made only where the entities that it refers to are registered. -/
theorem Task.isSecured_of_request {g : Graph} {task : Task} {projectId : EntityId}
    {request : CreateRequest} (h : task.request g projectId = .ok request)
    (howner : ∀ owner k, task = .feature owner k → g.owningAnchor? k = some owner) :
    task.IsSecured g := by
  cases asks_of_request h with
  | source => trivial
  | anchor hregistration => exact Option.isSome_iff_exists.2 ⟨_, hregistration⟩
  | @feature owner k r hregistration =>
    exact ⟨owner, howner owner k rfl, Option.isSome_iff_exists.2 ⟨r, hregistration⟩⟩
  | @derived k anchored derived hanchored hderived =>
    intro input hinput
    rw [← registration?_ofInput]
    rcases List.mem_append.1 hinput with hinput | hinput
    · exact exists_inputIds_iff.1 ⟨anchored, hanchored⟩ input hinput
    · exact exists_inputIds_iff.1 ⟨derived, hderived⟩ input hinput

namespace Registrar

variable {σ : Type} {r : Registrar σ} {g : Graph} {state : σ} {projectId : EntityId}
  {es : List (Exchange σ)}

theorem Reached.advances {p₀ p : Progress σ} {done : List Task}
    (h : r.Reached projectId p₀ done es p) : p₀.graph.Advances p.graph := by
  induction h with
  | start => exact .refl _
  | skipped _ _ ih => exact ih
  | created _ _ _ _ ih => exact ih.trans (Task.advances_register _ _ _)

theorem Reached.secured {next : σ} {p : Progress σ} {done rest : List Task}
    (h : r.Reached projectId ⟨next, g, 0, 0⟩ done es p) (hplan : g.plan = .ok (done ++ rest))
    (hg : g.Secured) : p.graph.Secured := by
  induction h generalizing rest with
  | start => exact hg
  | @skipped done _ _ task _ _ ih =>
    have hplan' : g.plan = .ok (done ++ task :: rest) := by simpa using hplan
    exact ih hplan'
  | @created done es p task request _ _ h hdone hrequest _ ih =>
    have hplan' : g.plan = .ok (done ++ task :: rest) := by simpa using hplan
    have hmoment : r.Moment g p.graph projectId es task request :=
      .intro hplan' h hdone hrequest (.refl _ _)
    -- Nothing is noted of what is no entity of the graph.
    by_cases hof : task.IsOf g
    · apply (ih hplan').register
      apply Task.isSecured_of_request hrequest
      intro owner k htask
      rw [Graph.owningAnchor?_congr h.onward.unregistered]
      exact hmoment.owningAnchor? htask hof
    · have hnot : ¬task.IsOf p.graph := by rwa [Task.isOf_congr h.onward.unregistered]
      show (task.register p.graph _).Secured
      rw [Task.register_of_not_isOf hnot]
      exact ih hplan'

section Course

variable {result : Except CatalogError RegistrationSummary × Graph × σ}

theorem Course.advances (h : r.Course g state es result) : g.Advances result.2.1 := by
  cases h with
  | refused | rejected => exact .refl g
  | halted _ _ hreached _ => exact hreached.advances

theorem Course.secured (h : r.Course g state es result) (hg : g.Secured) :
    result.2.1.Secured := by
  cases h with
  | refused | rejected => exact hg
  | halted hplan _ hreached _ => exact hreached.secured hplan hg

end Course

end Registrar

/-! ### Growth -/

namespace Graph

/-- What can be done to a graph: an entity that is not registered is added, a derived feature gets
another input, or the graph is registered, in any project, with any session in any state. -/
inductive Grows : Graph → Graph → Prop
  | addSource (g : Graph) (s : Source) : s.registration = none → Grows g (g.addSource s).2
  | addAnchor (g : Graph) (a : Anchor) : a.registration = none → Grows g (g.addAnchor a).2
  | addFeature (g : Graph) (f : Feature) : f.registration = none → Grows g (g.addFeature f).2
  | addDerived (g : Graph) (d : DerivedFeature) : d.registration = none →
      Grows g (g.addDerived d).2
  | addInput {g g' : Graph} (k : DerivedKey) (input : FeatureRef) :
      g.addInput k input = .ok g' → Grows g g'
  | register {σ : Type} (r : Registrar σ) (g : Graph) (state : σ) :
      Grows g (r.register g state).2.1

variable {g g' : Graph}

theorem Grows.adds_or_register (h : g.Grows g') :
    g.Adds g' ∨ ∃ (σ : Type) (r : Registrar σ) (state : σ), (r.register g state).2.1 = g' := by
  cases h with
  | addSource _ _ hs => exact .inl (g.adds_addSource hs)
  | addAnchor _ _ ha => exact .inl (g.adds_addAnchor ha)
  | addFeature _ _ hf => exact .inl (g.adds_addFeature hf)
  | addDerived _ _ hd => exact .inl (g.adds_addDerived hd)
  | addInput _ _ h => exact .inl (adds_addInput h)
  | register r _ state => exact .inr ⟨_, r, state, rfl⟩

theorem Grows.registered (h : g.Grows g') {task : Task} (htask : (task.registration? g).isSome) :
    (task.registration? g').isSome := by
  rcases h.adds_or_register with hadds | ⟨σ, r, state, rfl⟩
  · exact hadds.retains.registered task htask
  · exact (r.course g state).advances.registered task htask

theorem Grows.secured (h : g.Grows g') (hg : g.Secured) : g'.Secured := by
  rcases h.adds_or_register with hadds | ⟨σ, r, state, rfl⟩
  · exact hadds.secured hg
  · exact (r.course g state).secured hg

theorem secured_of_growth (h : Relation.ReflTransGen Grows g g') (hg : g.Secured) :
    g'.Secured := by
  induction h with
  | refl => exact hg
  | tail _ hstep ih => exact hstep.secured ih

theorem registered_of_growth (h : Relation.ReflTransGen Grows g g') {task : Task}
    (htask : (task.registration? g).isSome) : (task.registration? g').isSome := by
  induction h with
  | refl => exact htask
  | tail _ hstep ih => exact hstep.registered ih

/-- The small graph after it has been registered with an empty registry. -/
def registeredSmall : Graph := (Client.counting.registrar.register small (.empty none)).2.1

theorem growth_registeredSmall : Relation.ReflTransGen Grows empty registeredSmall := by
  have hempty : Relation.ReflTransGen Grows empty empty := .refl
  have hsource := hempty.tail (.addSource _ (.ofKind "s" (.hdfs "/data")) rfl)
  have hfeature := hsource.tail (.addFeature _ ⟨"f", default, [], none, .empty, none⟩ rfl)
  have hanchor := hfeature.tail (.addAnchor _ ⟨"a", ⟨0⟩, [⟨0⟩], .empty, none⟩ rfl)
  have hderived := hanchor.tail (.addDerived _ ⟨"d", default, [], [], [], none, .empty, none⟩ rfl)
  have hsmall : Relation.ReflTransGen Grows empty small :=
    hderived.tail (.addInput ⟨0⟩ (.anchored ⟨0⟩) rfl)
  exact hsmall.tail (.register Client.counting.registrar small (.empty none))

/-- In a graph that comes from the empty one, an anchor is registered only if its source is; a
feature only if an anchor lists it, and the first one that does is registered; and a derived feature
only if all its inputs are. So a derived feature that is registered depends on no cycle, whatever is
done to the graph later. -/
theorem registered_is_downward_closed (h : Relation.ReflTransGen Grows empty g) :
    (∀ k, (g.anchor k).registration.isSome →
      (g.source (g.anchor k).source).registration.isSome) ∧
    (∀ k, (g.feature k).registration.isSome → ∃ owner, g.owningAnchor? k = some owner ∧
      k ∈ (g.anchor owner).features ∧ (g.anchor owner).registration.isSome) ∧
    (∀ k, (g.derivedFeature k).registration.isSome →
      ∀ input ∈ (g.derivedFeature k).inputs, (g.inputRegistration? input).isSome) ∧
    ∀ k, (g.derivedFeature k).registration.isSome → ∀ g', Relation.ReflTransGen Grows g g' →
      ∀ u, Relation.ReflTransGen g'.IsInput u k → ¬Relation.TransGen g'.IsInput u u := by
  have hg := secured_of_growth h secured_empty
  refine ⟨fun k hk => hg.needs (.anchor k) hk, fun k hk => ?_,
    fun k hk => hg.needs (.derived k) hk, fun k hk g' hgrowth u hreaches => ?_⟩
  · obtain ⟨owner, howner, hregistered⟩ := hg.needs (.feature ⟨0⟩ k) hk
    exact ⟨owner, howner, (owningAnchor?_eq_some.1 howner).2.1, hregistered⟩
  · have hk' : ((Task.derived k).registration? g').isSome := registered_of_growth hgrowth hk
    exact not_transGen_self_of_acc ((secured_of_growth hgrowth hg).founded k hk') hreaches

theorem registeredSmall_is_downward_closed :
    (registeredSmall.derivedFeature ⟨0⟩).registration.isSome ∧
    (registeredSmall.inputRegistration? (.anchored ⟨0⟩)).isSome ∧
    (∃ owner, registeredSmall.owningAnchor? ⟨0⟩ = some owner ∧
      (registeredSmall.anchor owner).registration.isSome) ∧
    ¬Relation.TransGen registeredSmall.IsInput ⟨0⟩ ⟨0⟩ := by
  have hderived : (registeredSmall.derivedFeature ⟨0⟩).registration.isSome := by
    rw [registeredSmall, Registrar.register_of_plan plan_small]
    decide +kernel
  have hlists : .anchored ⟨0⟩ ∈ (registeredSmall.derivedFeature ⟨0⟩).inputs := by
    rw [registeredSmall, Registrar.register_of_plan plan_small]
    decide +kernel
  obtain ⟨-, hfeatures, hinputs, hcycles⟩ := registered_is_downward_closed growth_registeredSmall
  have hinput := hinputs ⟨0⟩ hderived _ hlists
  obtain ⟨owner, howner, -, hregistered⟩ := hfeatures ⟨0⟩ hinput
  exact ⟨hderived, hinput, ⟨owner, howner, hregistered⟩, hcycles ⟨0⟩ hderived _ .refl _ .refl⟩

end Graph

end FeatureCatalog
