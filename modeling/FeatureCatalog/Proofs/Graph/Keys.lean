import FeatureCatalog.Graph
import Mathlib.Data.List.GetD
import Mathlib.Data.List.Nodup
import Mathlib.Data.Set.Defs
import Mathlib.Tactic.ByContra

/-! The keys of a graph: which there are, and what they stand for. -/

namespace FeatureCatalog

namespace Graph

variable {g : Graph}

theorem mem_anchorKeys {k : AnchorKey} : k ∈ g.anchorKeys ↔ k.index < g.anchors.length := by
  cases k
  simp [anchorKeys]

theorem mem_derivedKeys {k : DerivedKey} : k ∈ g.derivedKeys ↔ k.index < g.derived.length := by
  cases k
  simp [derivedKeys]

theorem nodup_anchorKeys (g : Graph) : g.anchorKeys.Nodup :=
  List.nodup_range.map fun _ _ h => by simpa using h

theorem getD_mem {α : Type} (l : List α) (d : α) {i : Nat} (h : i < l.length) : l.getD i d ∈ l := by
  rw [List.getD_eq_getElem _ _ h]
  exact List.getElem_mem h

theorem anchor_mem {k : AnchorKey} (h : k ∈ g.anchorKeys) : g.anchor k ∈ g.anchors :=
  getD_mem g.anchors default (mem_anchorKeys.1 h)

theorem exists_anchorKey {a : Anchor} (h : a ∈ g.anchors) :
    ∃ k ∈ g.anchorKeys, g.anchor k = a := by
  obtain ⟨i, hi, rfl⟩ := List.getElem_of_mem h
  exact ⟨⟨i⟩, mem_anchorKeys.2 hi, List.getD_eq_getElem _ _ hi⟩

theorem derivedFeature_mem {k : DerivedKey} (h : k ∈ g.derivedKeys) :
    g.derivedFeature k ∈ g.derived :=
  getD_mem g.derived default (mem_derivedKeys.1 h)

/-- What has inputs is a derived feature of the graph. -/
theorem mem_derivedKeys_of_mem_inputs {k : DerivedKey} {input : FeatureRef}
    (h : input ∈ (g.derivedFeature k).inputs) : k ∈ g.derivedKeys := by
  rw [mem_derivedKeys]
  by_contra hnot
  have hdefault : g.derivedFeature k = default := List.getD_eq_default _ _ (Nat.not_lt.1 hnot)
  rw [hdefault] at h
  cases h

theorem exists_derivedKey {d : DerivedFeature} (h : d ∈ g.derived) :
    ∃ k ∈ g.derivedKeys, g.derivedFeature k = d := by
  obtain ⟨i, hi, rfl⟩ := List.getElem_of_mem h
  exact ⟨⟨i⟩, mem_derivedKeys.2 hi, List.getD_eq_getElem _ _ hi⟩

/-- All keys in the graph stand for entities of the graph. -/
structure Closed (g : Graph) : Prop where
  sources : ∀ a ∈ g.anchors, a.source.index < g.sources.length
  features : ∀ a ∈ g.anchors, ∀ k ∈ a.features, k.index < g.features.length
  anchoredInputs : ∀ d ∈ g.derived, ∀ k ∈ d.anchoredInputs, k.index < g.features.length
  derivedInputs : ∀ d ∈ g.derived, ∀ k ∈ d.derivedInputs, k.index < g.derived.length

/-- The sources of anchors. -/
def usedSources (g : Graph) : Set SourceKey := {k | ∃ a ∈ g.anchors, a.source = k}

/-- The features that anchors list. -/
def usedFeatures (g : Graph) : Set FeatureKey := {k | ∃ a ∈ g.anchors, k ∈ a.features}

theorem mem_usedSources {k : SourceKey} :
    k ∈ g.usedSources ↔ ∃ a ∈ g.anchorKeys, (g.anchor a).source = k := by
  constructor
  · rintro ⟨a, ha, hk⟩
    obtain ⟨l, hl, rfl⟩ := exists_anchorKey ha
    exact ⟨l, hl, hk⟩
  · rintro ⟨a, ha, hk⟩
    exact ⟨_, anchor_mem ha, hk⟩

theorem mem_usedFeatures {k : FeatureKey} :
    k ∈ g.usedFeatures ↔ ∃ a ∈ g.anchorKeys, k ∈ (g.anchor a).features := by
  constructor
  · rintro ⟨a, ha, hk⟩
    obtain ⟨l, hl, rfl⟩ := exists_anchorKey ha
    exact ⟨l, hl, hk⟩
  · rintro ⟨a, ha, hk⟩
    exact ⟨_, anchor_mem ha, hk⟩

/-- The owner of a feature is the first of the anchors that list it. -/
theorem owningAnchor?_eq_some {k : FeatureKey} {a : AnchorKey} : g.owningAnchor? k = some a ↔
    a ∈ g.anchorKeys ∧ k ∈ (g.anchor a).features ∧
      ∀ b : AnchorKey, b.index < a.index → k ∉ (g.anchor b).features := by
  unfold owningAnchor? Graph.anchor
  rw [mem_anchorKeys, Option.map_eq_some_iff]
  constructor
  · rintro ⟨i, hfind, rfl⟩
    obtain ⟨hi, hlists, hfirst⟩ := List.findIdx?_eq_some_iff_getElem.1 hfind
    refine ⟨hi, by simpa [hi] using hlists, fun b hb => ?_⟩
    have hlt : b.index < g.anchors.length := Nat.lt_trans hb hi
    simpa [hlt] using hfirst b.index hb
  · rintro ⟨hi, hlists, hfirst⟩
    refine ⟨a.index, List.findIdx?_eq_some_iff_getElem.2 ⟨hi, by simpa [hi] using hlists, ?_⟩, rfl⟩
    intro j hj
    have hlt : j < g.anchors.length := Nat.lt_trans hj hi
    simpa [hlt] using hfirst ⟨j⟩ hj

end Graph

end FeatureCatalog
