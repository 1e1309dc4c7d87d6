import FeatureCatalog.Entity

/-! What a registry stores: a table of entities by id, each with the project that it belongs to, and
a list of relations. What contains or consumes what is written in the relations; the bags of anchors
and derived features refer to the same entities again. -/

namespace FeatureCatalog

/-- An entity in the table, and its project. A project belongs to itself. -/
structure Stored where
  project : EntityId
  entity : Entity

/-- The entities and relations of a registry. -/
structure Contents where
  entities : Dict Stored
  relations : List Relation

/-- A reference to an entity as bags store it. -/
def EntityId.reference (id : EntityId) : Json := .obj [("guid", id.toJson)]

namespace Bag

/-- The attributes with a reference to a feature at the end of the list of features, unless it is in
that list. Where there is no list, one begins; a value that is no list stays. -/
def withFeature (attrs : Bag) (id : EntityId) : Bag :=
  match Entries.get? "features" attrs with
  | none => Entries.insert "features" (.arr [id.reference]) attrs
  | some (.arr items) =>
    if items.any (·.same id.reference) then attrs
    else Entries.insert "features" (.arr (items ++ [id.reference])) attrs
  | some _ => attrs

/-- The attributes without references to a feature in the list of features. -/
def withoutFeature (attrs : Bag) (id : EntityId) : Bag :=
  match Entries.get? "features" attrs with
  | some (.arr items) =>
    Entries.insert "features" (.arr (items.filter fun item => !item.same id.reference)) attrs
  | _ => attrs

/-- The bags define the same entity: they are the same apart from the list of features, which grows
after an anchor has been created. -/
def sameDefinition (a b : Bag) : Bool :=
  Json.sameEntries (Entries.erase "features" a) (Entries.erase "features" b)

end Bag

namespace Contents

/-- Nothing is stored. -/
def empty : Contents := ⟨.empty, []⟩

/-- The entity with the given id. -/
def entity? (c : Contents) (id : EntityId) : Option Entity :=
  (c.entities.get? id.text).map (·.entity)

/-- The first entity, in the order of ids, with the given qualified name. -/
def find? (c : Contents) (qualifiedName : String) : Option Entity :=
  (c.entities.values.map (·.entity)).find? fun e => e.qualifiedName? == some qualifiedName

/-- The name of the project with the given id. -/
def projectName (c : Contents) (id : EntityId) : Except TransportError String :=
  match c.entities.get? id.text with
  | some stored =>
    if stored.entity.type = .project then .ok (stored.entity.name?.getD "")
    else .error (.notFound ("project " ++ id.text))
  | none => .error (.notFound ("project " ++ id.text))

/-- The id of the first project, in the order of ids, with the given name. -/
def projectNamed? (c : Contents) (name : String) : Option EntityId :=
  (c.entities.entries.find? fun e =>
    e.2.entity.type == .project && e.2.entity.name? == some name).map fun e => ⟨e.1⟩

/-- The entity with the given id, if it is of the given type and belongs to the project. -/
def typed? (c : Contents) (project : EntityId) (type : EntityType) (id : EntityId) :
    Option Entity :=
  match c.entities.get? id.text with
  | some stored =>
    if stored.project = project ∧ stored.entity.type = type then some stored.entity else none
  | none => none

/-- Adds a relation, unless it is there. -/
def relate (c : Contents) (source target : EntityId) (type : RelationshipType) : Contents :=
  let relation : Relation := ⟨source, target, type⟩
  if c.relations.contains relation then c else { c with relations := c.relations ++ [relation] }

/-- Notes that `parent` contains `child`. -/
def contain (c : Contents) (parent child : EntityId) : Contents :=
  (c.relate parent child .contains).relate child parent .belongsTo

/-- Notes that `consumer` consumes `producer`. -/
def consume (c : Contents) (consumer producer : EntityId) : Contents :=
  (c.relate consumer producer .consumes).relate producer consumer .produces

/-- Changes the attributes of the entity with the given id. -/
def modifyAttributes (c : Contents) (id : EntityId) (f : Bag → Bag) : Contents :=
  { c with
    entities := c.entities.modify id.text fun stored =>
      { stored with entity := { stored.entity with attributes := f stored.entity.attributes } } }

/-- Puts a feature on the list of its anchor. -/
def enlist (c : Contents) (anchor : Option EntityId) (feature : EntityId) : Contents :=
  match anchor with
  | some anchor => c.modifyAttributes anchor (·.withFeature feature)
  | none => c

/-- The entities and relations of the project with the given name. -/
def payload (c : Contents) (name : String) : Except TransportError ProjectPayload :=
  match c.projectNamed? name with
  | none => .error (.notFound ("project " ++ name))
  | some project =>
    let entities := c.entities.filter fun _ stored => stored.project = project
    .ok
      { entities := entities.mapValues (·.entity)
        relations := c.relations.filter fun r =>
          entities.contains r.source.text && entities.contains r.target.text }

/-- The features, anchored and derived, of the project with the given name. -/
def features (c : Contents) (name : String) : Except TransportError (List Entity) :=
  match c.projectNamed? name with
  | none => .error (.notFound ("project " ++ name))
  | some project =>
    .ok <| ((c.entities.values.filter fun stored => stored.project = project).map
      (·.entity)).filter fun e => e.type = .anchorFeature ∨ e.type = .derivedFeature

/-- The entities that the given one contains or that consume it. -/
def dependents (c : Contents) (id : EntityId) : List Entity :=
  (c.relations.filter fun r =>
    r.source = id ∧ (r.type = .contains ∨ r.type = .produces)).filterMap fun r =>
      c.entity? r.target

/-- Removes an entity, all its relations, and all references to it in lists of features. -/
def remove (c : Contents) (id : EntityId) : Contents where
  entities := (c.entities.erase id.text).mapValues fun stored =>
    { stored with
      entity := { stored.entity with attributes := stored.entity.attributes.withoutFeature id } }
  relations := c.relations.filter fun r => r.source ≠ id ∧ r.target ≠ id

end Contents

end FeatureCatalog
