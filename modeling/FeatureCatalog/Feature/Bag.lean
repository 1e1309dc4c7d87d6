import FeatureCatalog.Attributes
import FeatureCatalog.Feature

/-! Anchors and features as bags of attributes. A bag refers to other entities by their ids, so what
is read from a bag is detached: it still has to be linked. The keys of features may come in any
casing, and the feature type under either of two names; the keys of anchors are taken as they
are. -/

namespace FeatureCatalog

namespace Anchor

/-- The attributes of an anchor with the given source. -/
def bagOf (name : String) (source : EntityId) (tags : Tags) : Bag :=
  [("name", .str name), ("sourceId", source.toJson), ("tags", Json.ofTags tags)]

/-- An anchor that still refers to its source and its features by their ids. -/
structure Detached where
  name : String
  source : EntityRef
  features : List EntityRef
  tags : Option Tags

/-- The fields of a detached anchor. -/
def Detached.record : Record Detached :=
  Detached.mk <$> Record.required "name" Decoder.text
    <*> Record.requiredAs "source" ["sourceId"] EntityRef.decoder
    <*> Record.defaulted "features" EntityRef.decoder.list []
    <*> tagsField

/-- Reads the anchor that the attributes of `entity` describe. -/
def Detached.decode (entity : String) (attrs : Bag) : Except CatalogError Detached :=
  Detached.record.read entity attrs

end Anchor

/-- What anchored and derived features have in common. -/
structure FeatureBody where
  name : String
  type : FeatureType
  keys : List TypedKey
  transformation : Option Transformation
  tags : Tags

namespace FeatureBody

/-- The attributes of a feature, with `inputs` between those before and after them in order. -/
def bag (f : FeatureBody) (inputs : Bag) : Bag :=
  ("featureType", f.type.toJson) :: inputs ++
    [ ("key", .arr (f.keys.map TypedKey.toJson)), ("name", .str f.name),
      ("tags", Json.ofTags f.tags) ] ++
    (f.transformation.map fun t => ("transformation", t.toJson)).toList

/-- The fields of a feature, with a transformation that has yet to be read. -/
def record : Record (Option Json × (Option Transformation → FeatureBody)) :=
  (fun name type keys json tags =>
      (json, fun transformation => ⟨name, type, keys, transformation, tags.getD .empty⟩)) <$>
      Record.required "name" Decoder.text
    <*> Record.requiredAs "type" ["featureType"] FeatureType.decoder
    <*> Record.defaulted "key" TypedKey.decoder.list []
    <*> Record.optional "transformation" Decoder.any
    <*> tagsField

end FeatureBody

namespace Feature

/-- What the feature has in common with derived ones. -/
def body (f : Feature) : FeatureBody := ⟨f.name, f.type, f.keys, f.transformation, f.tags⟩

/-- The attributes of a feature. -/
def bag (f : Feature) : Bag := f.body.bag []

/-- The unregistered feature with the given body. -/
def ofBody (b : FeatureBody) : Feature :=
  ⟨b.name, b.type, b.keys, b.transformation, b.tags, none⟩

/-- Reads the feature that the attributes of `entity` describe. -/
def decode (entity : String) (attrs : Bag) : Except CatalogError Feature := do
  let (json, body) ← FeatureBody.record.read entity attrs.camelize
  return ofBody (body (← Transformation.ofJson? entity json))

end Feature

namespace DerivedFeature

/-- What the feature has in common with anchored ones. -/
def body (d : DerivedFeature) : FeatureBody := ⟨d.name, d.type, d.keys, d.transformation, d.tags⟩

/-- The attributes of a derived feature whose inputs have the given ids. -/
def bag (d : DerivedFeature) (anchored derived : List EntityId) : Bag :=
  d.body.bag
    [ ("inputAnchorFeatures", .arr (anchored.map EntityId.toJson)),
      ("inputDerivedFeatures", .arr (derived.map EntityId.toJson)) ]

/-- The unregistered derived feature with the given body and no inputs. -/
def ofBody (b : FeatureBody) : DerivedFeature :=
  ⟨b.name, b.type, b.keys, [], [], b.transformation, b.tags, none⟩

/-- A derived feature without inputs, and the ids of the inputs that it should have. -/
structure Detached where
  feature : DerivedFeature
  anchored : List EntityId
  derived : List EntityId

/-- The ids of the inputs of a derived feature. -/
def inputsRecord : Record (List EntityRef × List EntityRef) :=
  Prod.mk <$> Record.defaulted "inputAnchorFeatures" EntityRef.decoder.list []
    <*> Record.defaulted "inputDerivedFeatures" EntityRef.decoder.list []

/-- Reads the derived feature that the attributes of `entity` describe. -/
def Detached.decode (entity : String) (attrs : Bag) : Except CatalogError Detached := do
  let (json, body) ← FeatureBody.record.read entity attrs.camelize
  let (anchored, derived) ← inputsRecord.read entity attrs.camelize
  let transformation ← Transformation.ofJson? entity json
  return ⟨ofBody (body transformation), anchored.map EntityRef.id, derived.map EntityRef.id⟩

end DerivedFeature

end FeatureCatalog
