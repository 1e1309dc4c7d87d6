import FeatureCatalog.Config
import FeatureCatalog.Json.Typed
import FeatureCatalog.Text.Characters

/-! Configurations from outside: a JSON document with an object, or with a list of the fields in
order, and settings that are looked up by name. -/

namespace FeatureCatalog.RegistryConfig

open Json

/-- The fields of a configuration. -/
inductive Field where
  | endpoint
  | project
  | projectTags
  | sandbox
  deriving DecidableEq

namespace Field

/-- The name of a field. -/
def name : Field → String
  | .endpoint => "endpoint"
  | .project => "project_name"
  | .projectTags => "project_tags"
  | .sandbox => "sandbox"

/-- All fields in order. -/
def all : List Field := [.endpoint, .project, .projectTags, .sandbox]

/-- The field must be given. -/
def isRequired : Field → Bool
  | .endpoint | .project => true
  | .projectTags | .sandbox => false

end Field

/-- The fields read so far. -/
structure Draft where
  endpoint : Option String
  project : Option String
  projectTags : Option Tags
  sandbox : Option Bool

namespace Draft

/-- The field has been read. -/
def has (d : Draft) : Field → Bool
  | .endpoint => d.endpoint.isSome
  | .project => d.project.isSome
  | .projectTags => d.projectTags.isSome
  | .sandbox => d.sandbox.isSome

/-- Reads the value of a field. -/
def readField (d : Draft) (c : Cursor) : Field → Except TextFault (Draft × c.Beyond)
  | .endpoint => do
    let (s, next) ← c.text
    return ({ d with endpoint := some s }, next)
  | .project => do
    let (s, next) ← c.text
    return ({ d with project := some s }, next)
  | .projectTags => do
    let (tags, next) ← c.texts
    return ({ d with projectTags := some tags }, next)
  | .sandbox => do
    let (b, next) ← c.boolean
    return ({ d with sandbox := some b }, next)

/-- The configuration, if no required field is missing. -/
def build (d : Draft) : Except Mismatch RegistryConfig :=
  match d.endpoint, d.project with
  | some endpoint, some project =>
    .ok ⟨endpoint, project, d.projectTags.getD .empty, d.sandbox.getD false⟩
  | none, _ => .error (.missingField Field.endpoint.name)
  | some _, none => .error (.missingField Field.project.name)

/-- Where an object that is given up inside is left: a closing brace that comes next is taken. -/
def leaveObject (c : Cursor) : Cursor :=
  let d := c.skipBlank.val
  match d.next? with
  | some ('\x7d', e) => e.val
  | _ => d

/-- Reads the entries of an object and its closing brace. Entries that are no fields are passed
over, and a field must not occur twice. -/
def readEntries (draft : Draft) (first : Bool) (c : Cursor) :
    Except TextFault (RegistryConfig × Cursor) := do
  match ← c.nextKey first with
  | .close d =>
    let e := leaveObject d.val
    match draft.build with
    | .ok config => return (config, e)
    | .error m => e.refuse m
  | .key name d =>
    match Field.all.find? (·.name == name) with
    | none =>
      let e ← d.val.colon
      let f ← e.val.skipValue
      readEntries draft false f.val
    | some field =>
      if draft.has field then (leaveObject d.val).refuse (.duplicateField field.name)
      else
        let e ← d.val.colon
        let (draft, f) ← draft.readField e.val field
        readEntries draft false f.val
termination_by c.rest.length
decreasing_by
  all_goals exact Nat.lt_trans f.property (Nat.lt_trans e.property d.property)

/-- Takes the closing bracket of a list all of whose items have been read. -/
def leaveList (c : Cursor) : Except TextFault Cursor :=
  let d := c.skipBlank.val
  match d.next? with
  | none => d.fail .endInList
  | some (']', e) => .ok e.val
  | some (',', e) =>
    let f := e.val.skipBlank.val
    f.failInside (if f.peek? = some ']' then .trailingComma else .trailingCharacters)
  | some _ => d.failInside .trailingCharacters

/-- Reads the items of a list as the given fields. `index` is the place of the first of them. -/
def readItems (draft : Draft) (first : Bool) (index : Nat) :
    List Field → Cursor → Except TextFault (Draft × Cursor)
  | [], c => .ok (draft, c)
  | field :: fields, c => do
    match ← c.nextItem first with
    | .close d =>
      if field.isRequired then
        let e ← leaveList d.val
        e.refuse (.tooShort index "RegistryConfig" Field.all.length)
      else readItems draft first (index + 1) fields d.val
    | .item d =>
      let (draft, e) ← draft.readField d.val field
      readItems draft false (index + 1) fields e.val

end Draft

/-- Reads a configuration. -/
def readConfig (c : Cursor) : Except TextFault (RegistryConfig × Cursor) :=
  let d := c.skipBlank.val
  let draft : Draft := ⟨none, none, none, none⟩
  match d.next? with
  | some ('\x7b', e) => draft.readEntries true e.val
  | some ('[', e) => do
    let (draft, f) ← draft.readItems true 0 Field.all e.val
    let g ← Draft.leaveList f
    match draft.build with
    | .ok config => return (config, g)
    | .error m => g.refuse m
  | _ => d.refuseValue (.record "RegistryConfig")

/-- The configuration in a JSON document. -/
def ofDocument (text : String) : Except CatalogError RegistryConfig :=
  match (do
      let (config, c) ← readConfig (Cursor.ofText text)
      c.finish
      return config : Except TextFault RegistryConfig) with
  | .ok config => do
    config.validate
    return config
  | .error fault => .error (.config (.badDocument fault))

/-- The tags in a JSON text. -/
def readTags (text : String) : Except TextFault Tags := do
  let (tags, c) ← (Cursor.ofText text).texts
  c.val.finish
  return tags

/-- The setting that holds the endpoint. -/
def endpointSetting : String := "FEATURE_REGISTRY_ENDPOINT"

/-- The setting that holds the project. -/
def projectSetting : String := "FEATURE_REGISTRY_PROJECT"

/-- The setting that says whether the registry is a sandbox. -/
def sandboxSetting : String := "FEATURE_REGISTRY_SANDBOX"

/-- The setting that holds the tags of the project. -/
def projectTagsSetting : String := "FEATURE_REGISTRY_PROJECT_TAGS"

/-- The text of a setting says yes. -/
def isYes (text : String) : Bool := ["1", "true", "yes"].contains (Text.asciiLower text)

/-- The configuration that is made of settings. An empty setting counts as none. -/
def ofSettings (lookup : String → Option String) : Except CatalogError RegistryConfig := do
  let get (setting : String) := (lookup setting).filter (· ≠ "")
  let some endpoint := get endpointSetting | .error (.config (.missingSetting endpointSetting))
  let some project := get projectSetting | .error (.config (.missingSetting projectSetting))
  let sandbox := ((get sandboxSetting).map isYes).getD false
  let projectTags ← match get projectTagsSetting with
    | none => .ok Dict.empty
    | some text =>
      match readTags text with
      | .ok tags => .ok tags
      | .error fault => .error (.config (.badTags projectTagsSetting fault))
  let config : RegistryConfig := ⟨endpoint, project, projectTags, sandbox⟩
  config.validate
  return config

end FeatureCatalog.RegistryConfig
