import FeatureCatalog.Error
import FeatureCatalog.Json.Camel
import FeatureCatalog.Json.Decoder

/-! What the bags of attributes of all kinds of entities have in common: ids, tags, and references
to other entities. A reader of a bag is told which entity it describes, for its complaints. -/

namespace FeatureCatalog

/-- An id is written as its text. -/
def EntityId.toJson (id : EntityId) : Json := .str id.text

/-- Reads an id. -/
def EntityId.decoder : Decoder EntityId := fun j => (Decoder.text j).map EntityId.mk

/-- A reference to an entity in a bag: its id alone, as it is sent, or an object with the id as its
`guid`, as it is stored. -/
inductive EntityRef where
  | bare (id : EntityId)
  | wrapped (id : EntityId)
  deriving DecidableEq

namespace EntityRef

/-- The id of the entity that is referred to. -/
def id : EntityRef → EntityId
  | .bare id => id
  | .wrapped id => id

/-- The JSON form of a reference. -/
def toJson : EntityRef → Json
  | .bare id => id.toJson
  | .wrapped id => .obj [("guid", id.toJson)]

/-- Reads a reference, with the same complaint about everything that is none. -/
def decoder : Decoder EntityRef
  | .str s => .ok (.bare ⟨s⟩)
  | .obj entries =>
    match Entries.get? "guid" entries with
    | some (.str s) => .ok (.wrapped ⟨s⟩)
    | _ => .error (.noAlternative "EntityRef")
  | _ => .error (.noAlternative "EntityRef")

end EntityRef

/-- Tags that may be absent or `null`. -/
def tagsField : Record (Option Tags) := Record.optional "tags" (Decoder.dict Decoder.text)

/-- A mismatch in the attributes of `entity` is a malformation of it. -/
def inEntity {α : Type} (entity : String) : Except Mismatch α → Except CatalogError α
  | .ok a => .ok a
  | .error cause => .error (.malformed entity (.mismatch cause))

/-- Reads a record from the attributes of `entity`. -/
def Record.read {α : Type} (r : Record α) (entity : String) (attrs : Bag) :
    Except CatalogError α :=
  inEntity entity (r.ofBag attrs)

/-- The attributes with all keys in camel case. -/
def Bag.camelize (attrs : Bag) : Bag := Entries.ofList (Json.camelizeEntries attrs)

end FeatureCatalog
