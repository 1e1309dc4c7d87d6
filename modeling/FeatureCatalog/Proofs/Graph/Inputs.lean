import FeatureCatalog.Proofs.Feature.Layout
import FeatureCatalog.Proofs.Registration.Growth

/-! Derived features in a graph that is edited: until a derived feature is registered, its inputs
are those that it was declared with and all that were added, anchored ones first. -/

namespace FeatureCatalog

open FeatureRef

namespace Graph

/-- What is done to a graph: an entity or an input of a derived feature is added, or a registration
is noted. -/
inductive Edit where
  | source (s : Source)
  | anchor (a : Anchor)
  | feature (f : Feature)
  | derived (d : DerivedFeature)
  | input (k : DerivedKey) (input : FeatureRef)
  | registration (task : Task) (r : Registration)

/-- The graph after an edit, or why the edit is refused. -/
def edit (g : Graph) : Edit → Except CatalogError Graph
  | .source s => .ok (g.addSource s).2
  | .anchor a => .ok (g.addAnchor a).2
  | .feature f => .ok (g.addFeature f).2
  | .derived d => .ok (g.addDerived d).2
  | .input k input => g.addInput k input
  | .registration task r => .ok (task.register g r)

/-- The graph after an edit. One that is refused leaves it as it is. -/
def edited (g : Graph) (e : Edit) : Graph :=
  match g.edit e with
  | .ok g' => g'
  | .error _ => g

/-- The inputs that edits are to add to `k`. -/
def Edit.inputsOf (k : DerivedKey) (edits : List Edit) : List FeatureRef :=
  edits.filterMap fun
    | .input j ref => if j = k then some ref else none
    | _ => none

end Graph

/-- A run of a registration edits its graph by noting registrations. -/
theorem Registrar.Reached.edits {σ : Type} {r : Registrar σ} {projectId : EntityId}
    {p₀ p : Progress σ} {done : List Task} {es : List (Exchange σ)}
    (h : r.Reached projectId p₀ done es p) :
    ∃ edits : List Graph.Edit, edits.foldl Graph.edited p₀.graph = p.graph := by
  induction h with
  | start => exact ⟨[], rfl⟩
  | skipped _ _ ih => exact ih
  | @created _ _ p task _ entity _ _ _ _ _ ih =>
    obtain ⟨edits, hedits⟩ := ih
    refine ⟨edits ++ [.registration task ⟨entity.guid, task.qualifiedName r.project p.graph⟩], ?_⟩
    rw [List.foldl_append, hedits]
    rfl

namespace Graph

variable {g g' : Graph} {k : DerivedKey}

/-- However a graph grows, it is edited. -/
theorem Grows.edits (h : g.Grows g') : ∃ edits : List Edit, edits.foldl edited g = g' := by
  cases h with
  | addSource _ s => exact ⟨[.source s], rfl⟩
  | addAnchor _ a => exact ⟨[.anchor a], rfl⟩
  | addFeature _ f => exact ⟨[.feature f], rfl⟩
  | addDerived _ d => exact ⟨[.derived d], rfl⟩
  | addInput k input hinput => exact ⟨[.input k input], by simp [edited, edit, hinput]⟩
  | register r _ state =>
    have hcourse := r.course g state
    generalize r.transcript g state = es at hcourse
    generalize r.register g state = result at hcourse ⊢
    cases hcourse with
    | refused | rejected => exact ⟨[], rfl⟩
    | halted _ _ hreached _ => exact hreached.edits

theorem addInput_of_registered (h : (g.derivedFeature k).registration.isSome) (input : FeatureRef) :
    g.addInput k input = .error (.alreadyRegistered (g.derivedFeature k).name) := by
  unfold addInput
  simp [h]

theorem addInput_of_unregistered (h : (g.derivedFeature k).registration = none)
    (input : FeatureRef) : g.addInput k input =
      .ok { g with derived := g.derived.modify k.index (·.addInput input) } := by
  unfold addInput
  simp [h]

theorem edited_of_registered (h : (g.derivedFeature k).registration.isSome) (input : FeatureRef) :
    g.edited (.input k input) = g := by
  simp only [edited, edit, addInput_of_registered h]

theorem length_register (task : Task) (r : Registration) :
    (task.register g r).derived.length = g.derived.length := by
  cases task with
  | derived k => exact List.length_modify _ _ _
  | source | anchor | feature => rfl

theorem length_edited (g : Graph) (e : Edit) : g.derived.length ≤ (g.edited e).derived.length := by
  cases e with
  | source | anchor | feature => exact Nat.le_refl _
  | derived d => simp [edited, edit, addDerived]
  | registration task r => exact (length_register task r).ge
  | input k input =>
    cases h : (g.derivedFeature k).registration with
    | none => simp [edited, edit, addInput_of_unregistered h]
    | some r => rw [edited_of_registered (by rw [h]; rfl)]

/-- An edit of something else leaves a derived feature its inputs and its registration. -/
theorem derivedFeature_edited (hk : k.index < g.derived.length) {e : Edit}
    (he : ∀ input, e ≠ .input k input) :
    ((g.edited e).derivedFeature k).inputs = (g.derivedFeature k).inputs ∧
      ((g.derivedFeature k).registration.isSome →
        ((g.edited e).derivedFeature k).registration.isSome) := by
  cases e with
  | source | anchor | feature => exact ⟨rfl, id⟩
  | derived d =>
    have hsame : (g.addDerived d).2.derivedFeature k = g.derivedFeature k :=
      List.getD_append g.derived [d] default k.index hk
    show ((g.addDerived d).2.derivedFeature k).inputs = _ ∧
      (_ → ((g.addDerived d).2.derivedFeature k).registration.isSome)
    rw [hsame]
    exact ⟨rfl, id⟩
  | registration task r =>
    have hadvances := Task.advances_register task g r
    exact ⟨(congrArg DerivedFeature.inputs (derivedFeature_congr hadvances.unregistered k) :),
      hadvances.registered (.derived k)⟩
  | input j input =>
    have hne : j ≠ k := fun h => he input (h ▸ rfl)
    cases h : (g.derivedFeature j).registration with
    | some r =>
      rw [edited_of_registered (by rw [h]; rfl)]
      exact ⟨rfl, id⟩
    | none =>
      have hadd := addInput_of_unregistered h input
      have hsame := derivedFeature_addInput hadd k
      rw [if_neg fun hj => hne hj.1] at hsame
      simp only [edited, edit, hadd, hsame]
      exact ⟨trivial, id⟩

/-- An input goes to a derived feature that is not registered. -/
theorem derivedFeature_edited_input (hk : k.index < g.derived.length)
    (h : (g.derivedFeature k).registration = none) (input : FeatureRef) :
    (g.edited (.input k input)).derivedFeature k = (g.derivedFeature k).addInput input := by
  have hadd := addInput_of_unregistered h input
  have hplaced := derivedFeature_addInput hadd k
  rw [if_pos ⟨rfl, hk⟩] at hplaced
  simpa only [edited, edit, hadd] using hplaced

theorem Edit.inputsOf_concat (edits : List Edit) (e : Edit) :
    inputsOf k (edits ++ [e]) = inputsOf k edits ++ inputsOf k [e] :=
  List.filterMap_append

theorem Edit.inputsOf_input (input : FeatureRef) : inputsOf k [.input k input] = [input] := by
  simp [inputsOf]

theorem Edit.inputsOf_of_ne {e : Edit} (he : ∀ input, e ≠ .input k input) :
    inputsOf k [e] = [] := by
  cases e with
  | input j input =>
    have hne : j ≠ k := fun h => he input (h ▸ rfl)
    simp [inputsOf, hne]
  | source | anchor | feature | derived | registration => rfl

/-- What a run of edits makes of a derived feature: it takes in the inputs that are added until it is
registered, which all have been if it is not. -/
theorem inputs_foldl_edited (hk : k.index < g.derived.length) (edits : List Edit) :
    ∃ more, more <+: Edit.inputsOf k edits ∧
      ((edits.foldl edited g).derivedFeature k).inputs =
        more.foldl place (g.derivedFeature k).inputs ∧
      (((edits.foldl edited g).derivedFeature k).registration = none →
        more = Edit.inputsOf k edits) := by
  have hlength : ∀ edits : List Edit, k.index < (edits.foldl edited g).derived.length := by
    intro edits
    induction edits using List.reverseRecOn with
    | nil => exact hk
    | append_singleton edits e ih =>
      rw [List.foldl_append]
      exact Nat.lt_of_lt_of_le ih (length_edited _ e)
  induction edits using List.reverseRecOn with
  | nil => exact ⟨[], List.prefix_rfl, rfl, fun _ => rfl⟩
  | append_singleton edits e ih =>
    obtain ⟨more, hprefix, hinputs, hall⟩ := ih
    have hk' := hlength edits
    rw [List.foldl_append, List.foldl_cons, List.foldl_nil, Edit.inputsOf_concat]
    generalize edits.foldl edited g = g' at hinputs hall hk' ⊢
    by_cases he : ∃ input, e = .input k input
    · obtain ⟨input, rfl⟩ := he
      rw [Edit.inputsOf_input]
      cases hregistration : (g'.derivedFeature k).registration with
      | none =>
        obtain rfl := hall hregistration
        refine ⟨_, List.prefix_rfl, ?_, fun _ => rfl⟩
        rw [derivedFeature_edited_input hk' hregistration, DerivedFeature.inputs_addInput, hinputs,
          List.foldl_append, List.foldl_cons, List.foldl_nil]
      | some r =>
        rw [edited_of_registered (by rw [hregistration]; rfl), hregistration]
        exact ⟨more, hprefix.trans (List.prefix_append _ _), hinputs, nofun⟩
    · have hne : ∀ input, e ≠ .input k input := fun input h => he ⟨input, h⟩
      obtain ⟨hsame, hstays⟩ := derivedFeature_edited hk' hne
      rw [Edit.inputsOf_of_ne hne, List.append_nil, hsame]
      refine ⟨more, hprefix, hinputs, fun hnone => hall ?_⟩
      rw [← Option.not_isSome_iff_eq_none] at hnone ⊢
      exact fun h => hnone (hstays h)

/-- Whatever is done to a graph after a derived feature has been added to it with declared inputs,
its inputs are those and the ones added later, anchored ones first and otherwise in the order of
declaration, as stable sorting and insertion at the partition point leave them. Until it is
registered, none that was to be added is missing. Once it is, each further one is refused and
changes nothing. -/
theorem inputs_stay_anchored_first :
    (∀ (g : Graph) (d : DerivedFeature) (declared : List FeatureRef) (edits : List Edit),
      d.inputs = [] →
      let k := (g.addDerived (d.addInputs declared)).1
      let g' := edits.foldl edited (g.addDerived (d.addInputs declared)).2
      ∃ more, more <+: Edit.inputsOf k edits ∧
        (g'.derivedFeature k).inputs = anchoredFirst (declared ++ more) ∧
        (g'.derivedFeature k).inputs = more.foldl place (arrange declared) ∧
        ((g'.derivedFeature k).registration = none → more = Edit.inputsOf k edits)) ∧
    ∀ (g : Graph) (k : DerivedKey) (input : FeatureRef),
      (g.derivedFeature k).registration.isSome →
      g.edit (.input k input) = .error (.alreadyRegistered (g.derivedFeature k).name) ∧
        g.edited (.input k input) = g := by
  constructor
  · intro g d declared edits hd k g'
    have hk : k.index < (g.addDerived (d.addInputs declared)).2.derived.length := by
      simp [k, addDerived]
    have hadded : (g.addDerived (d.addInputs declared)).2.derivedFeature k =
        d.addInputs declared := by
      simp [k, addDerived, Graph.derivedFeature]
    obtain ⟨more, hprefix, hinputs, hall⟩ := inputs_foldl_edited hk edits
    rw [hadded, DerivedFeature.inputs_addInputs_eq_arrange hd] at hinputs
    refine ⟨more, hprefix, ?_, hinputs, hall⟩
    rw [hinputs, arrange_eq, foldl_place]
  · intro g k input h
    exact ⟨addInput_of_registered h input, edited_of_registered h input⟩

/-- A graph with one derived feature. -/
def based : Graph := ⟨[], [], [], [⟨"base", default, [], [], [], none, .empty, none⟩], []⟩

/-- A derived feature that has no inputs yet. -/
def bare : DerivedFeature := ⟨"top", default, [], [], [], none, .empty, none⟩

/-- Edits that add inputs to both derived features, one of them twice. -/
def extensions : List Edit :=
  [ .input ⟨1⟩ (.derived ⟨0⟩), .input ⟨1⟩ (.anchored ⟨1⟩), .input ⟨0⟩ (.anchored ⟨1⟩),
    .input ⟨1⟩ (.anchored ⟨1⟩) ]

/-- `bare` in a graph, declared with an input of each kind and then extended. -/
def extended : Graph :=
  extensions.foldl edited (based.addDerived (bare.addInputs [.derived ⟨0⟩, .anchored ⟨0⟩])).2

/-- `extended` with the derived feature registered. -/
def extendedRegistered : Graph := extended.edited (.registration (.derived ⟨1⟩) ⟨⟨"id"⟩, "p__top"⟩)

theorem extended_stays_anchored_first :
    (extended.derivedFeature ⟨1⟩).inputs =
      [.anchored ⟨0⟩, .anchored ⟨1⟩, .anchored ⟨1⟩, .derived ⟨0⟩, .derived ⟨0⟩] ∧
    extendedRegistered.edit (.input ⟨1⟩ (.anchored ⟨0⟩)) = .error (.alreadyRegistered "top") ∧
    extendedRegistered.edited (.input ⟨1⟩ (.anchored ⟨0⟩)) = extendedRegistered := by
  obtain ⟨hstays, hrefused⟩ := inputs_stay_anchored_first
  obtain ⟨more, -, hinputs, -, hall⟩ :=
    hstays based bare [.derived ⟨0⟩, .anchored ⟨0⟩] extensions rfl
  obtain rfl := hall rfl
  exact ⟨hinputs, hrefused extendedRegistered ⟨1⟩ (.anchored ⟨0⟩) rfl⟩

end Graph

end FeatureCatalog
