import FeatureCatalog.Proofs.Graph.Keys
import FeatureCatalog.Proofs.Registration.Plan
import Mathlib.Data.List.Nodup
import Mathlib.Data.List.Flatten

/-! The tasks of a plan: which there are, that none is there twice, and, where the names in a graph
are distinct, that a registry can tell their entities apart. -/

namespace FeatureCatalog

namespace Task

/-- The type of the entity that a registry stores. -/
def type : Task → EntityType
  | .source _ => .source
  | .anchor _ => .anchor
  | .feature _ _ => .anchorFeature
  | .derived _ => .derivedFeature

/-- The anchor that the entity is registered for, if it is a feature. -/
def anchor? : Task → Option AnchorKey
  | .feature owner _ => some owner
  | _ => none

/-- A registry knows the entities of the tasks by the same name. -/
def Clash (g : Graph) (a b : Task) : Prop :=
  a.type = b.type ∧ a.name g = b.name g ∧ a.anchor? = b.anchor?

/-- Each of the tasks has an entity of its own, and none has the name of another. -/
structure Apart (g : Graph) (tasks : List Task) : Prop where
  nodup : tasks.Nodup
  slot : ∀ a ∈ tasks, ∀ b ∈ tasks, a.slot = b.slot → a = b
  clash : ∀ a ∈ tasks, ∀ b ∈ tasks, a.IsOf g → b.IsOf g → a.Clash g b → a = b

/-- The feature that is registered for the anchor. -/
def featureFor? (owner : AnchorKey) : Task → Option FeatureKey
  | .feature k f => if k = owner then some f else none
  | _ => none

/-- The features that tasks register for an anchor, in turn. -/
def listed (owner : AnchorKey) (tasks : List Task) : List FeatureKey :=
  tasks.filterMap (featureFor? owner)

theorem mem_listed {owner : AnchorKey} {tasks : List Task} {f : FeatureKey} :
    f ∈ listed owner tasks ↔ .feature owner f ∈ tasks := by
  unfold listed
  rw [List.mem_filterMap]
  constructor
  · rintro ⟨task, hmem, hfor⟩
    cases task with
    | feature k f' =>
      obtain ⟨rfl, rfl⟩ : k = owner ∧ f' = f := by simpa [featureFor?] using hfor
      exact hmem
    | source | anchor | derived => simp [featureFor?] at hfor
  · exact fun hmem => ⟨_, hmem, by simp [featureFor?]⟩

end Task

namespace Graph

variable {g : Graph}

/-! ### The tasks of anchors -/

section AnchorTasks

variable {seen : List SourceKey} {keys : List AnchorKey}

theorem source_mem_anchorTasks {k : SourceKey} : .source k ∈ g.anchorTasks seen keys ↔
    k ∉ seen ∧ ∃ a ∈ keys, (g.anchor a).source = k := by
  induction keys generalizing seen with
  | nil => simp [anchorTasks]
  | cons a rest ih =>
    have hfeature : .source k ∉ (g.anchor a).features.map (Task.feature a) := by simp
    rw [anchorTasks, List.mem_append, ih]
    by_cases hk : (g.anchor a).source = k
    · by_cases hseen : k ∈ seen <;> simp_all
    · have hne : k ≠ (g.anchor a).source := fun h => hk h.symm
      by_cases hseen : (g.anchor a).source ∈ seen <;> simp_all

theorem anchor_mem_anchorTasks {k : AnchorKey} :
    .anchor k ∈ g.anchorTasks seen keys ↔ k ∈ keys := by
  induction keys generalizing seen with
  | nil => simp [anchorTasks]
  | cons a rest ih =>
    rw [anchorTasks, List.mem_append, ih]
    split <;> simp

theorem feature_mem_anchorTasks {owner : AnchorKey} {k : FeatureKey} :
    .feature owner k ∈ g.anchorTasks seen keys ↔
      owner ∈ keys ∧ k ∈ (g.anchor owner).features := by
  induction keys generalizing seen with
  | nil => simp [anchorTasks]
  | cons a rest ih =>
    rw [anchorTasks, List.mem_append, ih]
    by_cases ha : a = owner
    · subst ha
      split <;> simp
    · have hne : owner ≠ a := fun h => ha h.symm
      split <;> simp [ha, hne]

theorem derived_not_mem_anchorTasks {k : DerivedKey} :
    .derived k ∉ g.anchorTasks seen keys := by
  induction keys generalizing seen with
  | nil => simp [anchorTasks]
  | cons a rest ih =>
    rw [anchorTasks, List.mem_append, not_or]
    refine ⟨?_, ih⟩
    split <;> simp

theorem nodup_anchorTasks (hkeys : keys.Nodup) (hfeatures : ∀ k, (g.anchor k).features.Nodup) :
    (g.anchorTasks seen keys).Nodup := by
  induction keys generalizing seen with
  | nil => exact List.nodup_nil
  | cons a rest ih =>
    obtain ⟨ha, hrest⟩ := List.nodup_cons.1 hkeys
    have hmap : ((g.anchor a).features.map (Task.feature a)).Nodup :=
      (hfeatures a).map fun _ _ h => (Task.feature.inj h).2
    rw [anchorTasks, List.nodup_append]
    refine ⟨?_, ih hrest, ?_⟩
    · split <;> simp [hmap]
    · rintro task htask _ hmem rfl
      cases task with
      | source k =>
        have hk : k = (g.anchor a).source := by
          split at htask <;> simp_all
        exact (source_mem_anchorTasks.1 hmem).1 (hk ▸ List.mem_cons_self)
      | anchor k =>
        have hk : k = a := by
          split at htask <;> simp_all
        exact ha (hk ▸ anchor_mem_anchorTasks.1 hmem)
      | feature owner f =>
        have hk : owner = a := by
          split at htask <;> simp_all
        exact ha (hk ▸ (feature_mem_anchorTasks.1 hmem).1)
      | derived k => exact derived_not_mem_anchorTasks hmem

/-- The features of an anchor are registered in the order in which the anchor lists them. -/
theorem listed_anchorTasks (hkeys : keys.Nodup) (owner : AnchorKey) :
    Task.listed owner (g.anchorTasks seen keys) =
      if owner ∈ keys then (g.anchor owner).features else [] := by
  have hmap : ∀ a, Task.listed owner ((g.anchor a).features.map (Task.feature a)) =
      if a = owner then (g.anchor a).features else [] := by
    intro a
    by_cases ha : a = owner <;>
      simp [Task.listed, List.filterMap_map, Function.comp_def, Task.featureFor?, ha]
  induction keys generalizing seen with
  | nil => rfl
  | cons a rest ih =>
    obtain ⟨ha, hrest⟩ := List.nodup_cons.1 hkeys
    have hsplit : Task.listed owner (g.anchorTasks seen (a :: rest)) =
        Task.listed owner ((g.anchor a).features.map (Task.feature a)) ++
          Task.listed owner (g.anchorTasks ((g.anchor a).source :: seen) rest) := by
      rw [anchorTasks]
      split <;> simp only [Task.listed, List.nil_append, List.cons_append,
        List.filterMap_cons, List.filterMap_append, Task.featureFor?]
    rw [hsplit, hmap, ih hrest]
    by_cases hao : a = owner
    · subst hao
      simp [ha]
    · have hne : owner ≠ a := fun h => hao h.symm
      simp [hao, hne]

end AnchorTasks

/-! ### All tasks -/

/-- The task registers an entity that the graph uses: an anchor, its source or a feature on its
list, or one of the ordered derived features. -/
def Uses (g : Graph) (order : List DerivedKey) : Task → Prop
  | .source k => ∃ a ∈ g.anchorKeys, (g.anchor a).source = k
  | .anchor k => k ∈ g.anchorKeys
  | .feature owner k => owner ∈ g.anchorKeys ∧ k ∈ (g.anchor owner).features
  | .derived k => k ∈ order

theorem mem_tasks {order : List DerivedKey} {task : Task} :
    task ∈ g.tasks order ↔ g.Uses order task := by
  unfold tasks
  rw [List.mem_append]
  cases task with
  | source k => simp [source_mem_anchorTasks, Uses]
  | anchor k => simp [anchor_mem_anchorTasks, Uses]
  | feature owner k => simp [feature_mem_anchorTasks, Uses]
  | derived k => simp [derived_not_mem_anchorTasks, Uses]

theorem source_mem_tasks {order : List DerivedKey} {k : SourceKey} :
    .source k ∈ g.tasks order ↔ k ∈ g.usedSources :=
  mem_tasks.trans mem_usedSources.symm

theorem anchor_mem_tasks {order : List DerivedKey} {k : AnchorKey} :
    .anchor k ∈ g.tasks order ↔ k.index < g.anchors.length :=
  mem_tasks.trans mem_anchorKeys

theorem feature_mem_tasks {order : List DerivedKey} {k : FeatureKey} :
    (∃ owner, .feature owner k ∈ g.tasks order) ↔ k ∈ g.usedFeatures :=
  (exists_congr fun _ => mem_tasks).trans mem_usedFeatures.symm

theorem derived_mem_tasks {order : List DerivedKey} {k : DerivedKey} :
    .derived k ∈ g.tasks order ↔ k ∈ order :=
  mem_tasks

theorem nodup_tasks {order : List DerivedKey} (hfeatures : ∀ k, (g.anchor k).features.Nodup)
    (horder : order.Nodup) : (g.tasks order).Nodup := by
  unfold tasks
  rw [List.nodup_append]
  refine ⟨nodup_anchorTasks g.nodup_anchorKeys hfeatures,
    horder.map fun _ _ h => Task.derived.inj h, ?_⟩
  rintro task htask _ hmem rfl
  obtain ⟨k, -, rfl⟩ := List.mem_map.1 hmem
  exact derived_not_mem_anchorTasks htask

theorem listed_tasks {order : List DerivedKey} {owner : AnchorKey} (h : owner ∈ g.anchorKeys) :
    Task.listed owner (g.tasks order) = (g.anchor owner).features := by
  have hderived : Task.listed owner (order.map Task.derived) = [] := by
    simp [Task.listed, Task.featureFor?]
  have happend : Task.listed owner (g.tasks order) =
      Task.listed owner (g.anchorTasks [] g.anchorKeys) ++
        Task.listed owner (order.map Task.derived) := List.filterMap_append
  rw [happend, hderived, List.append_nil, listed_anchorTasks g.nodup_anchorKeys, if_pos h]

/-- No feature is listed twice, and the sources used by anchors, the anchors, the derived features,
and the features of each anchor have distinct names. -/
structure Distinct (g : Graph) : Prop where
  listed : (g.anchors.flatMap (·.features)).Nodup
  sources : ∀ a ∈ g.anchors, ∀ b ∈ g.anchors,
    (g.source a.source).name = (g.source b.source).name → a.source = b.source
  anchors : (g.anchors.map (·.name)).Nodup
  features : ∀ a ∈ g.anchors, ∀ k ∈ a.features, ∀ l ∈ a.features,
    (g.feature k).name = (g.feature l).name → k = l
  derived : (g.derived.map (·.name)).Nodup

namespace Distinct

variable (h : g.Distinct)
include h

theorem nodup_features (k : AnchorKey) : (g.anchor k).features.Nodup := by
  by_cases hk : k ∈ g.anchorKeys
  · exact (List.nodup_flatMap.1 h.listed).1 _ (anchor_mem hk)
  · have hdefault : g.anchor k = default :=
      List.getD_eq_default _ _ (Nat.not_lt.1 (mt mem_anchorKeys.2 hk))
    rw [hdefault]
    exact List.nodup_nil

/-- A feature is on the list of one anchor only. -/
theorem owner_unique {a b : AnchorKey} (ha : a ∈ g.anchorKeys) (hb : b ∈ g.anchorKeys)
    {k : FeatureKey} (hka : k ∈ (g.anchor a).features) (hkb : k ∈ (g.anchor b).features) :
    a = b := by
  have hdisjoint := (List.nodup_flatMap.1 h.listed).2
  rw [List.pairwise_iff_getElem] at hdisjoint
  have hget : ∀ {c : AnchorKey} (hc : c.index < g.anchors.length),
      g.anchor c = g.anchors[c.index] := fun hc => List.getD_eq_getElem _ _ hc
  rw [hget (mem_anchorKeys.1 ha)] at hka
  rw [hget (mem_anchorKeys.1 hb)] at hkb
  have hne : ∀ {i j : Nat} (hi : i < g.anchors.length) (hj : j < g.anchors.length),
      k ∈ g.anchors[i].features → k ∈ g.anchors[j].features → ¬i < j :=
    fun hi hj hki hkj hij => hdisjoint _ _ hi hj hij hki hkj
  have hindex : a.index = b.index := by
    have hab := hne (mem_anchorKeys.1 ha) (mem_anchorKeys.1 hb) hka hkb
    have hba := hne (mem_anchorKeys.1 hb) (mem_anchorKeys.1 ha) hkb hka
    omega
  cases a
  cases b
  exact congrArg AnchorKey.mk hindex

theorem eq_of_slot {order : List DerivedKey} {a b : Task} (ha : g.Uses order a)
    (hb : g.Uses order b) (hslot : a.slot = b.slot) : a = b := by
  cases a with
  | feature owner k =>
    cases b with
    | feature owner' l =>
      obtain rfl : k = l := (Task.feature.inj hslot).2
      rw [h.owner_unique ha.1 hb.1 ha.2 hb.2]
    | source | anchor | derived => cases hslot
  | source | anchor | derived => cases b <;> first | exact hslot | cases hslot

/-- Tasks of entities that a registry knows by the same name are the same. -/
theorem eq_of_clash {order : List DerivedKey} {a b : Task} (ha : g.Uses order a)
    (hb : g.Uses order b) (hof : a.IsOf g) (hof' : b.IsOf g) (hclash : a.Clash g b) : a = b := by
  have hname : ∀ {α : Type} {l : List α} {name : α → String} {d : α} {i j : Nat},
      (l.map name).Nodup → i < l.length → j < l.length →
      name (l.getD i d) = name (l.getD j d) → i = j := by
    intro α l name d i j hnodup hi hj heq
    rw [List.getD_eq_getElem _ _ hi, List.getD_eq_getElem _ _ hj] at heq
    have hlength : i < (l.map name).length := by simpa using hi
    exact (List.getElem?_inj hlength hnodup).1 (by simp [hi, hj, heq])
  obtain ⟨htype, heq, hanchor⟩ := hclash
  cases a with
  | source k =>
    cases b with
    | source l =>
      obtain ⟨i, hi, rfl⟩ := ha
      obtain ⟨j, hj, rfl⟩ := hb
      exact congrArg Task.source (h.sources _ (anchor_mem hi) _ (anchor_mem hj) heq)
    | anchor | feature | derived => cases htype
  | anchor k =>
    cases b with
    | anchor l => exact congrArg (Task.anchor ⟨·⟩) (hname h.anchors hof hof' heq)
    | source | feature | derived => cases htype
  | feature owner k =>
    cases b with
    | feature owner' l =>
      obtain rfl : owner = owner' := Option.some.inj hanchor
      exact congrArg (Task.feature owner) (h.features _ (anchor_mem ha.1) k ha.2 l hb.2 heq)
    | source | anchor | derived => cases htype
  | derived k =>
    cases b with
    | derived l => exact congrArg (Task.derived ⟨·⟩) (hname h.derived hof hof' heq)
    | source | anchor | feature => cases htype

theorem apart {order : List DerivedKey} (horder : order.Nodup) :
    Task.Apart g (g.tasks order) where
  nodup := nodup_tasks h.nodup_features horder
  slot _ ha _ hb hslot := h.eq_of_slot (mem_tasks.1 ha) (mem_tasks.1 hb) hslot
  clash _ ha _ hb hof hof' hclash :=
    h.eq_of_clash (mem_tasks.1 ha) (mem_tasks.1 hb) hof hof' hclash

end Distinct

end Graph

end FeatureCatalog
