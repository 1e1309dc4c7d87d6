import FeatureCatalog.Entity
import FeatureCatalog.Feature
import FeatureCatalog.Source

/-! The graph of a catalog: sources, anchors, features and derived features, which refer to each
other by keys. A key of another graph reads as an unregistered entity without a name and without
links. -/

namespace FeatureCatalog

/-- The entities of a catalog, each list indexed by the keys of its kind, and the relations that
came with them from a registry, which no link depends on. -/
structure Graph where
  sources : List Source
  anchors : List Anchor
  features : List Feature
  derived : List DerivedFeature
  relations : List Relation

namespace Graph

/-- The graph without entities. -/
def empty : Graph := ⟨[], [], [], [], []⟩

instance : Inhabited Graph := ⟨empty⟩

/-- The source that a key stands for. -/
def source (g : Graph) (k : SourceKey) : Source := g.sources.getD k.index default

/-- The anchor that a key stands for. -/
def anchor (g : Graph) (k : AnchorKey) : Anchor := g.anchors.getD k.index default

/-- The feature that a key stands for. -/
def feature (g : Graph) (k : FeatureKey) : Feature := g.features.getD k.index default

/-- The derived feature that a key stands for. -/
def derivedFeature (g : Graph) (k : DerivedKey) : DerivedFeature := g.derived.getD k.index default

/-- Adds a source. -/
def addSource (g : Graph) (s : Source) : SourceKey × Graph :=
  (⟨g.sources.length⟩, { g with sources := g.sources ++ [s] })

/-- Adds an anchor. -/
def addAnchor (g : Graph) (a : Anchor) : AnchorKey × Graph :=
  (⟨g.anchors.length⟩, { g with anchors := g.anchors ++ [a] })

/-- Adds an anchored feature. -/
def addFeature (g : Graph) (f : Feature) : FeatureKey × Graph :=
  (⟨g.features.length⟩, { g with features := g.features ++ [f] })

/-- Adds a derived feature. -/
def addDerived (g : Graph) (d : DerivedFeature) : DerivedKey × Graph :=
  (⟨g.derived.length⟩, { g with derived := g.derived ++ [d] })

/-- Adds an input to a derived feature, unless that has been registered. -/
def addInput (g : Graph) (k : DerivedKey) (input : FeatureRef) : Except CatalogError Graph :=
  let d := g.derivedFeature k
  if d.registration.isSome then .error (.alreadyRegistered d.name)
  else .ok { g with derived := g.derived.modify k.index (·.addInput input) }

/-- Notes the registration of a source. -/
def registerSource (g : Graph) (k : SourceKey) (r : Registration) : Graph :=
  { g with sources := g.sources.modify k.index ({ · with registration := some r }) }

/-- Notes the registration of an anchor. -/
def registerAnchor (g : Graph) (k : AnchorKey) (r : Registration) : Graph :=
  { g with anchors := g.anchors.modify k.index ({ · with registration := some r }) }

/-- Notes the registration of a feature. -/
def registerFeature (g : Graph) (k : FeatureKey) (r : Registration) : Graph :=
  { g with features := g.features.modify k.index ({ · with registration := some r }) }

/-- Notes the registration of a derived feature. -/
def registerDerived (g : Graph) (k : DerivedKey) (r : Registration) : Graph :=
  { g with derived := g.derived.modify k.index ({ · with registration := some r }) }

/-- The keys of the anchors in order. -/
def anchorKeys (g : Graph) : List AnchorKey := (List.range g.anchors.length).map AnchorKey.mk

/-- The keys of the derived features in order. -/
def derivedKeys (g : Graph) : List DerivedKey := (List.range g.derived.length).map DerivedKey.mk

/-- The first anchor with the given name. -/
def findAnchor? (g : Graph) (name : String) : Option AnchorKey :=
  (g.anchors.findIdx? (·.name == name)).map AnchorKey.mk

/-- The first derived feature with the given name. -/
def findDerived? (g : Graph) (name : String) : Option DerivedKey :=
  (g.derived.findIdx? (·.name == name)).map DerivedKey.mk

/-- The first anchor that lists the feature. -/
def owningAnchor? (g : Graph) (k : FeatureKey) : Option AnchorKey :=
  (g.anchors.findIdx? (·.features.contains k)).map AnchorKey.mk

/-- The registration of an input. -/
def inputRegistration? (g : Graph) : FeatureRef → Option Registration
  | .anchored k => (g.feature k).registration
  | .derived k => (g.derivedFeature k).registration

/-- The name of an input. -/
def inputName (g : Graph) : FeatureRef → String
  | .anchored k => (g.feature k).name
  | .derived k => (g.derivedFeature k).name

/-- The derived features that a derived feature consumes. -/
def dependencies (g : Graph) (k : DerivedKey) : List DerivedKey :=
  (g.derivedFeature k).derivedInputs

end Graph

end FeatureCatalog
