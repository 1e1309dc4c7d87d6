import FeatureCatalog.FeatureType
import FeatureCatalog.Identity
import FeatureCatalog.Transformation

/-! Features, the anchors that group features of one source, and features derived from other
features. Entities of a graph refer to each other by keys, one type of key for each kind of
entity. -/

namespace FeatureCatalog

/-- A source of a graph. -/
structure SourceKey where
  index : Nat
  deriving DecidableEq, Inhabited

/-- An anchor of a graph. -/
structure AnchorKey where
  index : Nat
  deriving DecidableEq, Inhabited

/-- An anchored feature of a graph. -/
structure FeatureKey where
  index : Nat
  deriving DecidableEq, Inhabited

/-- A derived feature of a graph. -/
structure DerivedKey where
  index : Nat
  deriving DecidableEq, Inhabited

/-- A feature that is computed from the source of an anchor. -/
structure Feature where
  name : String
  type : FeatureType
  keys : List TypedKey
  transformation : Option Transformation
  tags : Tags
  registration : Option Registration
  deriving DecidableEq, Inhabited

/-- A group of features computed from one source. -/
structure Anchor where
  name : String
  source : SourceKey
  features : List FeatureKey
  tags : Tags
  registration : Option Registration
  deriving DecidableEq, Inhabited

/-- An input of a derived feature. -/
inductive FeatureRef where
  | anchored (key : FeatureKey)
  | derived (key : DerivedKey)
  deriving DecidableEq

/-- A feature that is computed from other features. A registry keeps anchored and derived inputs in
two lists, so they are kept in two lists here too, each in the order of declaration. -/
structure DerivedFeature where
  name : String
  type : FeatureType
  keys : List TypedKey
  anchoredInputs : List FeatureKey
  derivedInputs : List DerivedKey
  transformation : Option Transformation
  tags : Tags
  registration : Option Registration
  deriving DecidableEq, Inhabited

namespace DerivedFeature

/-- All inputs: the anchored ones and then the derived ones. -/
def inputs (d : DerivedFeature) : List FeatureRef :=
  d.anchoredInputs.map .anchored ++ d.derivedInputs.map .derived

/-- Adds an input after the others of its kind. -/
def addInput (d : DerivedFeature) : FeatureRef → DerivedFeature
  | .anchored key => { d with anchoredInputs := d.anchoredInputs ++ [key] }
  | .derived key => { d with derivedInputs := d.derivedInputs ++ [key] }

/-- Adds inputs in turn. -/
def addInputs (d : DerivedFeature) (inputs : List FeatureRef) : DerivedFeature :=
  inputs.foldl addInput d

end DerivedFeature

end FeatureCatalog
