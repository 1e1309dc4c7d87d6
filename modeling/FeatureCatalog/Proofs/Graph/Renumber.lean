import FeatureCatalog.Proofs.Graph.Keys
import FeatureCatalog.Proofs.Graph.Link
import FeatureCatalog.Proofs.Source.Codec
import Mathlib.Data.Set.Function

/-! Graphs that are the same up to the choice of keys. What is fetched of a project has its entities
in the order of their ids, so the keys in it are others than those in the graph that was
registered. -/

namespace FeatureCatalog

/-- New keys for the entities of a graph. -/
structure Renumbering where
  source : SourceKey → SourceKey
  anchor : AnchorKey → AnchorKey
  feature : FeatureKey → FeatureKey
  derived : DerivedKey → DerivedKey

/-- The anchor with new keys in place of those that it refers to. -/
def Anchor.renumber (ρ : Renumbering) (a : Anchor) : Anchor :=
  { a with source := ρ.source a.source, features := a.features.map ρ.feature }

/-- The derived feature with new keys in place of those that it refers to. -/
def DerivedFeature.renumber (ρ : Renumbering) (d : DerivedFeature) : DerivedFeature :=
  { d with
    anchoredInputs := d.anchoredInputs.map ρ.feature
    derivedInputs := d.derivedInputs.map ρ.derived }

namespace Graph

/-- `f` is what anchors and derived features make of `g`, under new keys: it has the anchors of `g`,
their sources and features, and the derived features, each of them once and nothing else. An entity
of `f` is the one of `g`, referring to the new keys of what that refers to; of a source, `f` has
what bags keep. No input of a derived feature is left behind. -/
structure Renumbered (g : Graph) (ρ : Renumbering) (f : Graph) : Prop where
  sources : Set.BijOn ρ.source g.usedSources {k | k.index < f.sources.length}
  anchors : Set.BijOn ρ.anchor {k | k.index < g.anchors.length} {k | k.index < f.anchors.length}
  features : Set.BijOn ρ.feature g.usedFeatures {k | k.index < f.features.length}
  derived : Set.BijOn ρ.derived {k | k.index < g.derived.length} {k | k.index < f.derived.length}
  source : ∀ k ∈ g.usedSources, f.source (ρ.source k) = (g.source k).kept
  anchor : ∀ k : AnchorKey, k.index < g.anchors.length →
    f.anchor (ρ.anchor k) = (g.anchor k).renumber ρ
  feature : ∀ k ∈ g.usedFeatures, f.feature (ρ.feature k) = g.feature k
  derivedFeature : ∀ k : DerivedKey, k.index < g.derived.length →
    f.derivedFeature (ρ.derived k) = (g.derivedFeature k).renumber ρ
  anchoredInputs : ∀ d ∈ g.derived, ∀ k ∈ d.anchoredInputs, k ∈ g.usedFeatures
  derivedInputs : ∀ d ∈ g.derived, ∀ k ∈ d.derivedInputs, k.index < g.derived.length

/-- Two anchors share a source where they did. -/
theorem Renumbered.source_eq_iff {g f : Graph} {ρ : Renumbering} (h : g.Renumbered ρ f)
    {a b : AnchorKey} (ha : a.index < g.anchors.length) (hb : b.index < g.anchors.length) :
    (f.anchor (ρ.anchor a)).source = (f.anchor (ρ.anchor b)).source ↔
      (g.anchor a).source = (g.anchor b).source := by
  have hused : ∀ {k : AnchorKey}, k.index < g.anchors.length →
      (g.anchor k).source ∈ g.usedSources :=
    fun hk => ⟨_, anchor_mem (mem_anchorKeys.2 hk), rfl⟩
  rw [h.anchor a ha, h.anchor b hb]
  exact h.sources.injOn.eq_iff (hused ha) (hused hb)

end Graph

namespace Parts

variable {α κ κ' : Type} {kind? : Part → Option α} {parts : Parts} {keys : Set κ}
  {id : κ → EntityId} {index : κ' → Nat} {mk : Nat → κ'}

/-- Where keys stand for the parts of a kind, one for each, the places of the parts are new keys for
them. -/
theorem bijOn_place (h : parts.Distinct) (hindex : ∀ i, index (mk i) = i)
    (hmk : ∀ k, mk (index k) = k) (hinj : Set.InjOn id keys)
    (hlists : ∀ k ∈ keys, parts.Lists kind? (id k))
    (hall : ∀ e ∈ parts.pick kind?, ∃ k ∈ keys, (id k).text = e.1) :
    Set.BijOn (fun k => mk (parts.place kind? (id k))) keys
      {k | index k < (parts.pick kind?).length} := by
  have hplace : ∀ k ∈ keys, ∃ a,
      (parts.pick kind?)[parts.place kind? (id k)]? = some ((id k).text, a) := by
    intro k hk
    obtain ⟨a, ha⟩ := hlists k hk
    exact ⟨a, (getElem?_place h ha).2⟩
  refine ⟨fun k hk => ?_, fun k hk l hl heq => ?_, fun k' hk' => ?_⟩
  · obtain ⟨a, ha⟩ := hplace k hk
    obtain ⟨hlt, -⟩ := List.getElem?_eq_some_iff.1 ha
    exact (hindex _).trans_lt hlt
  · obtain ⟨a, ha⟩ := hplace k hk
    obtain ⟨b, hb⟩ := hplace l hl
    have hsame : parts.place kind? (id k) = parts.place kind? (id l) := by
      simpa only [hindex] using congrArg index heq
    rw [hsame, hb] at ha
    have htext : (id l).text = (id k).text := (Prod.mk.inj (Option.some.inj ha)).1
    exact hinj hk hl (congrArg EntityId.mk htext.symm)
  · have hk' : index k' < (parts.pick kind?).length := hk'
    obtain ⟨k, hk, htext⟩ := hall _ (List.getElem_mem hk')
    refine ⟨k, hk, ?_⟩
    have hget : (parts.pick kind?)[index k']? =
        some ((id k).text, ((parts.pick kind?)[index k']).2) := by
      rw [List.getElem?_eq_getElem hk', htext]
    have hfound : parts.indexOf? kind? (id k) = some (index k') :=
      (indexOf?_eq_some h).2 ⟨_, hget⟩
    change mk (parts.place kind? (id k)) = k'
    rw [place, hfound, Option.getD_some, hmk]

end Parts

end FeatureCatalog
