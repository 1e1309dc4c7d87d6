import FeatureCatalog.Attributes

/-! Entities as a registry holds and sends them: an id, a type and a bag of attributes; the
relations between them; and the contents of a whole project, with their JSON forms. -/

namespace FeatureCatalog

/-- The type of an entity. -/
inductive EntityType where
  | project
  | source
  | anchor
  | anchorFeature
  | derivedFeature
  deriving DecidableEq

namespace EntityType

/-- The name of an entity type. -/
def name : EntityType → String
  | .project => "feathr_workspace_v1"
  | .source => "feathr_source_v1"
  | .anchor => "feathr_anchor_v1"
  | .anchorFeature => "feathr_anchor_feature_v1"
  | .derivedFeature => "feathr_derived_feature_v1"

/-- All entity types. -/
def all : List EntityType := [.project, .source, .anchor, .anchorFeature, .derivedFeature]

/-- An entity type is written as its name. -/
def toJson (t : EntityType) : Json := .str t.name

/-- Reads an entity type. -/
def decoder : Decoder EntityType := Decoder.choice (all.map fun t => (t.name, t))

end EntityType

/-- An entity of a registry. -/
structure Entity where
  guid : EntityId
  type : EntityType
  attributes : Bag

namespace Entity

/-- The name in the attributes. -/
def name? (e : Entity) : Option String := e.attributes.text? "name"

/-- The qualified name in the attributes. -/
def qualifiedName? (e : Entity) : Option String := e.attributes.text? "qualifiedName"

/-- The JSON form of an entity. -/
def toJson (e : Entity) : Json :=
  .obj [("attributes", .obj e.attributes), ("guid", e.guid.toJson), ("typeName", e.type.toJson)]

/-- The fields of an entity. -/
def record : Record Entity :=
  Entity.mk <$> Record.required "guid" EntityId.decoder
    <*> Record.required "typeName" EntityType.decoder
    <*> Record.required "attributes" Decoder.bag

/-- Reads an entity. -/
def decoder : Decoder Entity := record.decoder "WireEntity"

end Entity

/-- How two entities are related. -/
inductive RelationshipType where
  | contains
  | belongsTo
  | consumes
  | produces
  deriving DecidableEq

namespace RelationshipType

/-- The name of a relationship type. -/
def name : RelationshipType → String
  | .contains => "Contains"
  | .belongsTo => "BelongsTo"
  | .consumes => "Consumes"
  | .produces => "Produces"

/-- All relationship types. -/
def all : List RelationshipType := [.contains, .belongsTo, .consumes, .produces]

/-- A relationship type is written as its name. -/
def toJson (t : RelationshipType) : Json := .str t.name

/-- Reads a relationship type. -/
def decoder : Decoder RelationshipType := Decoder.choice (all.map fun t => (t.name, t))

end RelationshipType

/-- A directed relation between two entities. -/
structure Relation where
  source : EntityId
  target : EntityId
  type : RelationshipType
  deriving DecidableEq

namespace Relation

/-- The JSON form of a relation. -/
def toJson (r : Relation) : Json :=
  .obj
    [ ("fromEntityId", r.source.toJson), ("relationshipType", r.type.toJson),
      ("toEntityId", r.target.toJson) ]

/-- The fields of a relation. -/
def record : Record Relation :=
  Relation.mk <$> Record.required "fromEntityId" EntityId.decoder
    <*> Record.required "toEntityId" EntityId.decoder
    <*> Record.required "relationshipType" RelationshipType.decoder

/-- Reads a relation. -/
def decoder : Decoder Relation := record.decoder "Relation"

end Relation

/-- All that a registry knows of one project: its entities by id, and their relations. -/
structure ProjectPayload where
  entities : Dict Entity
  relations : List Relation

namespace ProjectPayload

/-- The JSON form of the contents of a project. -/
def toJson (p : ProjectPayload) : Json :=
  .obj
    [ ("guidEntityMap", .obj (p.entities.mapValues Entity.toJson).entries),
      ("relations", .arr (p.relations.map Relation.toJson)) ]

/-- The fields of the contents of a project. -/
def record : Record ProjectPayload :=
  ProjectPayload.mk <$> Record.required "guidEntityMap" (Decoder.dict Entity.decoder)
    <*> Record.defaulted "relations" Relation.decoder.list []

/-- Reads the contents of a project. -/
def decoder : Decoder ProjectPayload := record.decoder "ProjectPayload"

end ProjectPayload

/-- What listings show of an entity. -/
structure EntitySummary where
  name : String
  id : EntityId
  qualifiedName : String
  deriving DecidableEq

namespace EntitySummary

/-- The summary of an entity, which needs both of its names. -/
def ofEntity (e : Entity) : Except CatalogError EntitySummary :=
  match e.name?, e.qualifiedName? with
  | some name, some qualifiedName => .ok ⟨name, e.guid, qualifiedName⟩
  | none, _ => .error (.malformed e.guid.text (.mismatch (.missingField "name")))
  | some _, none => .error (.malformed e.guid.text (.mismatch (.missingField "qualifiedName")))

/-- The JSON form of a summary. -/
def toJson (s : EntitySummary) : Json :=
  .obj [("id", s.id.toJson), ("name", .str s.name), ("qualifiedName", .str s.qualifiedName)]

/-- The fields of a summary. -/
def record : Record EntitySummary :=
  EntitySummary.mk <$> Record.required "name" Decoder.text
    <*> Record.required "id" EntityId.decoder
    <*> Record.required "qualifiedName" Decoder.text

/-- Reads a summary. -/
def decoder : Decoder EntitySummary := record.decoder "EntitySummary"

end EntitySummary

/-- The answer to a call that creates an entity: its id and its attributes as stored. -/
structure CreatedEntity where
  guid : EntityId
  attributes : Json

namespace CreatedEntity

/-- The JSON form of the answer to a creation. -/
def toJson (c : CreatedEntity) : Json :=
  .obj [("attributes", c.attributes), ("guid", c.guid.toJson)]

/-- The fields of the answer to a creation. -/
def record : Record CreatedEntity :=
  CreatedEntity.mk <$> Record.required "guid" EntityId.decoder
    <*> Record.defaulted "attributes" Decoder.any .null

/-- Reads the answer to a creation. -/
def decoder : Decoder CreatedEntity := record.decoder "CreatedEntity"

end CreatedEntity

end FeatureCatalog
