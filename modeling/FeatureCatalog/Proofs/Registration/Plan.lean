import FeatureCatalog.Proofs.Graph.Keys
import FeatureCatalog.Proofs.Graph.Order
import FeatureCatalog.Proofs.Graph.Unregistered
import FeatureCatalog.Proofs.Registration.Request
import Mathlib.Data.List.Basic

/-! What the plan of a registration depends on, and which tasks are in it. A graph that has been
registered in part has the plan that it had before. -/

namespace FeatureCatalog

namespace Graph

variable {g g' : Graph}

/-! ### What a plan depends on -/

section Congr

variable (h : g'.unregistered = g.unregistered)
include h

theorem source_congr (k : SourceKey) :
    (g'.source k).unregistered = (g.source k).unregistered := by
  rw [← source_unregistered, h, source_unregistered]

theorem anchor_congr (k : AnchorKey) :
    (g'.anchor k).unregistered = (g.anchor k).unregistered := by
  rw [← anchor_unregistered, h, anchor_unregistered]

theorem feature_congr (k : FeatureKey) :
    (g'.feature k).unregistered = (g.feature k).unregistered := by
  rw [← feature_unregistered, h, feature_unregistered]

theorem derivedFeature_congr (k : DerivedKey) :
    (g'.derivedFeature k).unregistered = (g.derivedFeature k).unregistered := by
  rw [← derivedFeature_unregistered, h, derivedFeature_unregistered]

theorem anchorKeys_congr : g'.anchorKeys = g.anchorKeys := by
  have hlength : g'.anchors.length = g.anchors.length := by
    simpa [unregistered] using congrArg (·.anchors.length) h
  rw [anchorKeys, hlength, anchorKeys]

theorem derivedKeys_congr : g'.derivedKeys = g.derivedKeys := by
  have hlength : g'.derived.length = g.derived.length := by
    simpa [unregistered] using congrArg (·.derived.length) h
  rw [derivedKeys, hlength, derivedKeys]

theorem dependencies_congr : g'.dependencies = g.dependencies := by
  funext k
  exact (congrArg DerivedFeature.derivedInputs (derivedFeature_congr h k) :)

theorem usedFeatures_congr : g'.usedFeatures = g.usedFeatures := by
  refine Set.ext fun k => ?_
  have hfeatures : ∀ a, (g'.anchor a).features = (g.anchor a).features :=
    fun a => (congrArg Anchor.features (anchor_congr h a) :)
  simp only [mem_usedFeatures, anchorKeys_congr h, hfeatures]

theorem owningAnchor?_congr : g'.owningAnchor? = g.owningAnchor? := by
  have hfeatures : ∀ a, (g'.anchor a).features = (g.anchor a).features :=
    fun a => (congrArg Anchor.features (anchor_congr h a) :)
  funext k
  ext owner
  simp only [owningAnchor?_eq_some, anchorKeys_congr h, hfeatures]

theorem mem_anchors_congr {a : Anchor} (ha : a ∈ g'.anchors) :
    ∃ b ∈ g.anchors, b.unregistered = a.unregistered := by
  have hmem : a.unregistered ∈ g'.unregistered.anchors := List.mem_map_of_mem ha
  rw [h] at hmem
  exact List.mem_map.1 hmem

theorem mem_derived_congr {d : DerivedFeature} (hd : d ∈ g'.derived) :
    ∃ e ∈ g.derived, e.unregistered = d.unregistered := by
  have hmem : d.unregistered ∈ g'.unregistered.derived := List.mem_map_of_mem hd
  rw [h] at hmem
  exact List.mem_map.1 hmem

theorem anchorTasks_congr (seen : List SourceKey) (keys : List AnchorKey) :
    g'.anchorTasks seen keys = g.anchorTasks seen keys := by
  induction keys generalizing seen with
  | nil => rfl
  | cons k rest ih =>
    have hsource : (g'.anchor k).source = (g.anchor k).source :=
      (congrArg Anchor.source (anchor_congr h k) :)
    have hfeatures : (g'.anchor k).features = (g.anchor k).features :=
      (congrArg Anchor.features (anchor_congr h k) :)
    simp only [anchorTasks, hsource, hfeatures, ih]

theorem tasks_congr (order : List DerivedKey) : g'.tasks order = g.tasks order := by
  rw [tasks, anchorTasks_congr h, anchorKeys_congr h, tasks]

end Congr

/-! ### What has a plan -/

theorem isSome_owningAnchor? {k : FeatureKey} :
    (g.owningAnchor? k).isSome ↔ ∃ a ∈ g.anchors, k ∈ a.features := by
  simp [owningAnchor?, List.findIdx?_isSome, List.any_eq_true]

/-- Where nothing is registered, an input will have an id if an anchor lists it. -/
theorem isResolvable_iff_of_unregistered (hg : g.unregistered = g) {k : FeatureKey} :
    g.isResolvable k = true ↔ k ∈ g.usedFeatures := by
  have hnone : (g.feature k).registration = none := by
    rw [← hg]
    exact (congrArg Feature.registration (g.feature_unregistered k) :)
  rw [isResolvable, hnone, Option.isSome_none, Bool.false_or]
  exact isSome_owningAnchor?

theorem checkInputs_eq_ok {ds : List DerivedFeature} :
    g.checkInputs ds = .ok () ↔ ∀ d ∈ ds, ∀ k ∈ d.anchoredInputs, g.isResolvable k = true := by
  induction ds with
  | nil => simp [checkInputs]
  | cons d rest ih =>
    rw [checkInputs, List.forall_mem_cons]
    cases hfind : d.anchoredInputs.find? fun k => !g.isResolvable k with
    | some k =>
      have hnot := List.find?_some hfind
      simp only [reduceCtorEq, false_iff, not_and]
      intro hall
      simp [hall k (List.mem_of_find?_eq_some hfind)] at hnot
    | none =>
      have hall : ∀ k ∈ d.anchoredInputs, g.isResolvable k = true := by
        intro k hk
        simpa using List.find?_eq_none.1 hfind k hk
      dsimp only
      rw [ih]
      exact ⟨fun hrest => ⟨hall, hrest⟩, And.right⟩

theorem checkSources_eq_ok {as : List Anchor} :
    g.checkSources as = .ok () ↔ ∀ a ∈ as, (g.source a.source).kind.reservedKey? = none := by
  induction as with
  | nil => simp [checkSources]
  | cons a rest ih =>
    rw [checkSources, bind_eq_ok, List.forall_mem_cons, ← ih]
    simp [Source.encode_eq_ok]

/-- A graph has a plan if its derived features have an order, every anchored input has an id or will
have one, and every source can be written. -/
theorem plan_eq_ok {tasks : List Task} : g.plan = .ok tasks ↔
    ∃ order, g.order g.derivedKeys = .ok order ∧
      (∀ d ∈ g.derived, ∀ k ∈ d.anchoredInputs, g.isResolvable k = true) ∧
      (∀ a ∈ g.anchors, (g.source a.source).kind.reservedKey? = none) ∧ g.tasks order = tasks := by
  unfold plan
  simp only [bind_eq_ok, return_eq_ok]
  constructor
  · rintro ⟨order, horder, ⟨⟩, hinputs, ⟨⟩, hsources, rfl⟩
    exact ⟨order, horder, checkInputs_eq_ok.1 hinputs, checkSources_eq_ok.1 hsources, rfl⟩
  · rintro ⟨order, horder, hinputs, hsources, rfl⟩
    exact ⟨order, horder, ⟨⟩, checkInputs_eq_ok.2 hinputs, ⟨⟩, checkSources_eq_ok.2 hsources, rfl⟩

/-- `g'` is `g` with more of it registered, or registered again. -/
structure Advances (g g' : Graph) : Prop where
  unregistered : g'.unregistered = g.unregistered
  registered : ∀ task : Task, (task.registration? g).isSome → (task.registration? g').isSome

theorem Advances.refl (g : Graph) : g.Advances g := ⟨rfl, fun _ h => h⟩

theorem Advances.trans {g'' : Graph} (h : g.Advances g') (h' : g'.Advances g'') :
    g.Advances g'' :=
  ⟨h'.unregistered.trans h.unregistered, fun task ht => h'.registered task (h.registered task ht)⟩

theorem Advances.isResolvable (h : g.Advances g') {k : FeatureKey}
    (hk : g.isResolvable k = true) : g'.isResolvable k = true := by
  unfold Graph.isResolvable at hk ⊢
  rw [Bool.or_eq_true] at hk ⊢
  refine hk.imp (h.registered (.feature ⟨0⟩ k)) fun hk => ?_
  obtain ⟨a, ha, hmem⟩ := isSome_owningAnchor?.1 hk
  obtain ⟨b, hb, heq⟩ := mem_anchors_congr h.unregistered.symm ha
  have hfeatures : b.features = a.features := (congrArg Anchor.features heq :)
  exact isSome_owningAnchor?.2 ⟨b, hb, hfeatures ▸ hmem⟩

/-- What has been registered in part has the plan that it had before. -/
theorem Advances.plan (h : g.Advances g') {tasks : List Task} (hplan : g.plan = .ok tasks) :
    g'.plan = .ok tasks := by
  obtain ⟨order, horder, hinputs, hsources, rfl⟩ := plan_eq_ok.1 hplan
  refine plan_eq_ok.2 ⟨order, ?_, fun d hd k hk => ?_, fun a ha => ?_, tasks_congr h.unregistered _⟩
  · rw [derivedKeys_congr h.unregistered]
    exact order_congr (dependencies_congr h.unregistered) horder
  · obtain ⟨e, he, heq⟩ := mem_derived_congr h.unregistered hd
    have hanchored : e.anchoredInputs = d.anchoredInputs :=
      (congrArg DerivedFeature.anchoredInputs heq :)
    exact h.isResolvable (hinputs e he k (hanchored ▸ hk))
  · obtain ⟨b, hb, heq⟩ := mem_anchors_congr h.unregistered ha
    have hsource : b.source = a.source := (congrArg Anchor.source heq :)
    have hkind : (g'.source a.source).kind = (g.source a.source).kind :=
      (congrArg Source.kind (source_congr h.unregistered _) :)
    rw [hkind, ← hsource]
    exact hsources b hb

end Graph

end FeatureCatalog
