import FeatureCatalog.Feature.Bag
import FeatureCatalog.Graph.Order
import FeatureCatalog.Source.Bag

/-! The graph of a project, from what a registry knows of it. First every entity is read on its own,
which leaves the links as ids; then the ids are looked up, so that an entity that is referred to
from several places becomes a single key. -/

namespace FeatureCatalog

/-- An entity that has been read but not linked. -/
inductive Part where
  | project
  | source (s : Source)
  | anchor (registration : Registration) (a : Anchor.Detached)
  | feature (f : Feature)
  | derived (d : DerivedFeature.Detached)

namespace Part

/-- The registration of an entity of a registry, which must have a qualified name. -/
def registrationOf (e : Entity) : Except CatalogError Registration :=
  match e.qualifiedName? with
  | some qualifiedName => .ok ⟨e.guid, qualifiedName⟩
  | none => .error (.malformed e.guid.text (.mismatch (.missingField "qualifiedName")))

/-- Reads the entity that is listed under `id`. -/
def ofEntity (id : String) (e : Entity) : Except CatalogError Part :=
  match e.type with
  | .project => .ok .project
  | .source => do
    let s ← Source.decode id e.attributes
    let r ← registrationOf e
    return .source { s with registration := some r }
  | .anchorFeature => do
    let f ← Feature.decode id e.attributes
    let r ← registrationOf e
    return .feature { f with registration := some r }
  | .derivedFeature => do
    let d ← DerivedFeature.Detached.decode id e.attributes
    let r ← registrationOf e
    return .derived { d with feature := { d.feature with registration := some r } }
  | .anchor => do
    let a ← Anchor.Detached.decode id e.attributes
    let r ← registrationOf e
    return .anchor r a

/-- The source that the part is. -/
def source? : Part → Option Source
  | .source s => some s
  | _ => none

/-- The anchor that the part is. -/
def anchor? : Part → Option (Registration × Anchor.Detached)
  | .anchor r a => some (r, a)
  | _ => none

/-- The feature that the part is. -/
def feature? : Part → Option Feature
  | .feature f => some f
  | _ => none

/-- The derived feature that the part is. -/
def derived? : Part → Option DerivedFeature.Detached
  | .derived d => some d
  | _ => none

end Part

/-- The parts of a project, listed by id. -/
abbrev Parts := List (String × Part)

namespace Parts

/-- The parts of one kind, with their ids. -/
def pick {α : Type} (kind? : Part → Option α) (parts : Parts) : List (String × α) :=
  parts.filterMap fun e => (kind? e.2).map fun a => (e.1, a)

/-- The place of an id among the parts of one kind. -/
def indexOf? {α : Type} (kind? : Part → Option α) (parts : Parts) (id : EntityId) : Option Nat :=
  (parts.pick kind?).findIdx? fun e => e.1 == id.text

/-- The place of an id among the parts of one kind, which the entity listed under `user` refers
to. -/
def resolve {α : Type} (kind? : Part → Option α) (parts : Parts) (user : String) (id : EntityId) :
    Except CatalogError Nat :=
  match parts.indexOf? kind? id with
  | some index => .ok index
  | none => .error (.danglingReference id ⟨user⟩)

/-- Reads the entities of a project. -/
def ofEntities : List (String × Entity) → Except CatalogError Parts
  | [] => .ok []
  | (id, e) :: rest => do
    let part ← Part.ofEntity id e
    let parts ← ofEntities rest
    return (id, part) :: parts

/-- The places of several ids in turn. -/
def resolveAll {α : Type} (kind? : Part → Option α) (parts : Parts) (user : String) :
    List EntityId → Except CatalogError (List Nat)
  | [] => .ok []
  | id :: rest => do
    let index ← parts.resolve kind? user id
    let indices ← parts.resolveAll kind? user rest
    return index :: indices

/-- Links the anchor listed under `id`. -/
def linkAnchor (parts : Parts) (id : String) (r : Registration) (a : Anchor.Detached) :
    Except CatalogError Anchor := do
  let source ← parts.resolve Part.source? id a.source.id
  let features ← parts.resolveAll Part.feature? id (a.features.map EntityRef.id)
  return ⟨a.name, ⟨source⟩, features.map FeatureKey.mk, a.tags.getD .empty, some r⟩

/-- Links anchors in turn. -/
def linkAnchors (parts : Parts) :
    List (String × Registration × Anchor.Detached) → Except CatalogError (List Anchor)
  | [] => .ok []
  | (id, r, a) :: rest => do
    let anchor ← parts.linkAnchor id r a
    let anchors ← parts.linkAnchors rest
    return anchor :: anchors

/-- Links the derived feature listed under `id`. -/
def linkDerived (parts : Parts) (id : String) (d : DerivedFeature.Detached) :
    Except CatalogError DerivedFeature := do
  let anchored ← parts.resolveAll Part.feature? id d.anchored
  let derived ← parts.resolveAll Part.derived? id d.derived
  return { d.feature with
    anchoredInputs := anchored.map FeatureKey.mk
    derivedInputs := derived.map DerivedKey.mk }

/-- Links derived features in turn. -/
def linkDeriveds (parts : Parts) :
    List (String × DerivedFeature.Detached) → Except CatalogError (List DerivedFeature)
  | [] => .ok []
  | (id, d) :: rest => do
    let derived ← parts.linkDerived id d
    let deriveds ← parts.linkDeriveds rest
    return derived :: deriveds

end Parts

namespace Graph

/-- The graph of a project. The entities of each kind are in the order of their ids. A project whose
derived features consume each other in a circle is refused. -/
def ofPayload (payload : ProjectPayload) : Except CatalogError Graph := do
  let parts ← Parts.ofEntities payload.entities.entries
  let anchors ← parts.linkAnchors (parts.pick Part.anchor?)
  let derived ← parts.linkDeriveds (parts.pick Part.derived?)
  let graph : Graph :=
    { sources := (parts.pick Part.source?).map (·.2)
      anchors
      features := (parts.pick Part.feature?).map (·.2)
      derived
      relations := payload.relations }
  let _ ← graph.order graph.derivedKeys
  return graph

/-- Reads the contents of a project and links them. -/
def ofJson (value : Json) : Except CatalogError Graph := do
  ofPayload (← inEntity "project payload" (ProjectPayload.decoder value))

end Graph

end FeatureCatalog
