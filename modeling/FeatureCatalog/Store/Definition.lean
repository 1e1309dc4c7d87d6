import FeatureCatalog.Store.Contents

/-! Definitions: what a call that creates an entity asks a registry to store. The call is checked
against what is stored, and the result says all that is needed to store the entity or to recognise
it. -/

namespace FeatureCatalog

/-- An entity to be stored: its type and attributes, its project if it is not one itself, the entity
that contains it, the anchor on whose list it goes, and the entities that it consumes. -/
structure Definition where
  type : EntityType
  project : Option EntityId
  qualifiedName : String
  attributes : Bag
  parent : Option EntityId
  anchor : Option EntityId
  consumes : List EntityId

/-- What a call that creates an entity comes to: an entity that is there whatever its definition, or
a definition. -/
inductive Creation where
  | existing (id : EntityId)
  | define (d : Definition)

namespace Creation

/-- A text in the body of a call that must be there and not be empty. -/
def requiredText (body : Bag) (key : String) : Except TransportError String :=
  match body.text? key with
  | some text => if text = "" then .error (.badRequest ("missing `" ++ key ++ "`")) else .ok text
  | none => .error (.badRequest ("missing `" ++ key ++ "`"))

/-- The tags in the body of a call as they are, or none. -/
def tagsOf (body : Bag) : Json := (Entries.get? "tags" body).getD (.obj [])

/-- The attributes with the feature type where registries keep it. -/
def storeFeatureType (body : Bag) : Bag :=
  match Entries.get? "featureType" body with
  | some type => Entries.insert "type" type (Entries.erase "featureType" body)
  | none => body

/-- The attributes with the qualified name among them. -/
def named (attributes : Bag) (qualifiedName : String) : Bag :=
  Entries.insert "qualifiedName" (.str qualifiedName) attributes

/-- A project, which is there if one of that name is. -/
def project (c : Contents) (body : Bag) : Except TransportError Creation := do
  let name ← requiredText body "name"
  match c.projectNamed? name with
  | some id => return .existing id
  | none =>
    return .define
      { type := .project
        project := none
        qualifiedName := name
        attributes := named [("name", .str name), ("tags", tagsOf body)] name
        parent := none
        anchor := none
        consumes := [] }

/-- A source of a project, with all attributes that are given. -/
def source (c : Contents) (project : EntityId) (body : Bag) :
    Except TransportError Definition := do
  let projectName ← c.projectName project
  let name ← requiredText body "name"
  let qualifiedName := qualifiedName projectName [name]
  return {
    type := .source
    project := some project
    qualifiedName
    attributes := named body qualifiedName
    parent := some project
    anchor := none
    consumes := [] }

/-- An anchor of a project, whose source must belong to that project. -/
def anchor (c : Contents) (project : EntityId) (body : Bag) :
    Except TransportError Definition := do
  let projectName ← c.projectName project
  let name ← requiredText body "name"
  let source : EntityId := ⟨← requiredText body "sourceId"⟩
  if (c.typed? project .source source).isNone then
    .error (.badRequest ("unknown source " ++ source.text))
  else
    let qualifiedName := qualifiedName projectName [name]
    return {
      type := .anchor
      project := some project
      qualifiedName
      attributes := named
        [ ("features", .arr []), ("name", .str name), ("source", source.reference),
          ("tags", tagsOf body) ] qualifiedName
      parent := some project
      anchor := none
      consumes := [source] }

/-- A feature of an anchor, which must belong to the project. -/
def anchorFeature (c : Contents) (project anchor : EntityId) (body : Bag) :
    Except TransportError Definition := do
  let projectName ← c.projectName project
  let some anchorName := (c.typed? project .anchor anchor).bind Entity.name?
    | .error (.notFound ("anchor " ++ anchor.text))
  let name ← requiredText body "name"
  let qualifiedName := qualifiedName projectName [anchorName, name]
  return {
    type := .anchorFeature
    project := some project
    qualifiedName
    attributes := named (storeFeatureType body) qualifiedName
    parent := some anchor
    anchor := some anchor
    consumes := [] }

/-- Checks that inputs are of the given type and belong to the project. -/
def checkInputs (c : Contents) (project : EntityId) (type : EntityType) :
    List EntityId → Except TransportError Unit
  | [] => .ok ()
  | id :: rest =>
    if (c.typed? project type id).isNone then
      .error (.badRequest ("unknown input feature " ++ id.text))
    else checkInputs c project type rest

/-- The inputs at `key` of the body of a call. -/
def inputs (c : Contents) (project : EntityId) (body : Bag) (key : String) (type : EntityType) :
    Except TransportError (List EntityId) := do
  let refs ← match Entries.get? key body with
    | none => .ok []
    | some value =>
      match EntityRef.decoder.list value with
      | .ok refs => .ok refs
      | .error cause => .error (.badRequest ("invalid `" ++ key ++ "`: " ++ cause.message))
  let ids := refs.map EntityRef.id
  checkInputs c project type ids
  return ids

/-- A derived feature of a project, whose inputs must belong to that project. -/
def derivedFeature (c : Contents) (project : EntityId) (body : Bag) :
    Except TransportError Definition := do
  let projectName ← c.projectName project
  let name ← requiredText body "name"
  let anchored ← inputs c project body "inputAnchorFeatures" .anchorFeature
  let derived ← inputs c project body "inputDerivedFeatures" .derivedFeature
  let qualifiedName := qualifiedName projectName [name]
  let attributes :=
    Entries.insert "inputDerivedFeatures" (.arr (derived.map EntityId.reference))
      (Entries.insert "inputAnchorFeatures" (.arr (anchored.map EntityId.reference))
        (storeFeatureType body))
  return {
    type := .derivedFeature
    project := some project
    qualifiedName
    attributes := named attributes qualifiedName
    parent := some project
    anchor := none
    consumes := anchored ++ derived }

/-- What a call with the given path and body comes to. -/
def ofCall (c : Contents) (path : List String) (body : Bag) : Except TransportError Creation :=
  match path with
  | ["projects"] => project c body
  | ["projects", p, "datasources"] => (source c ⟨p⟩ body).map .define
  | ["projects", p, "anchors"] => (anchor c ⟨p⟩ body).map .define
  | ["projects", p, "anchors", a, "features"] => (anchorFeature c ⟨p⟩ ⟨a⟩ body).map .define
  | ["projects", p, "derivedfeatures"] => (derivedFeature c ⟨p⟩ body).map .define
  | path => .error (.notFound ("/".intercalate path))

end Creation

namespace Contents

/-- The entity that a definition describes, if it is stored. An entity of the same qualified name
with another definition is a conflict. -/
def known? (c : Contents) (d : Definition) : Except TransportError (Option EntityId) :=
  match c.find? d.qualifiedName with
  | none => .ok none
  | some e =>
    if e.type = d.type ∧ e.attributes.sameDefinition d.attributes then .ok (some e.guid)
    else
      .error
        ⟨409, "entity `" ++ d.qualifiedName ++ "` already exists with a different definition"⟩

/-- Stores an entity under a new id. -/
def add (c : Contents) (d : Definition) (id : EntityId) : Contents :=
  let entity : Entity := ⟨id, d.type, d.attributes⟩
  let c := { c with entities := c.entities.insert id.text ⟨d.project.getD id, entity⟩ }
  let c := c.enlist d.anchor id
  let c := match d.parent with
    | some parent => c.contain parent id
    | none => c
  d.consumes.foldl (fun c input => c.consume id input) c

end Contents

end FeatureCatalog
