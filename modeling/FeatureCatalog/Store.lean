import FeatureCatalog.Session
import FeatureCatalog.Store.Definition
import FeatureCatalog.Text.Characters

/-! A registry in memory. It answers the calls of a session, checks the token of a call if one is
set, and can be told to fail creations after a number of them have succeeded. New ids come from a
source of random bits, which may fail. -/

namespace FeatureCatalog

/-- The state of a registry: what it stores, the token that calls must present, the number of
creations after which it fails them, the calls to create and those that succeeded, and how often
random bits have been drawn. -/
structure Store where
  contents : Contents
  token : Option String
  failAfter : Option Nat
  createCalls : Nat
  created : Nat
  drawn : Nat

/-- The random bits of each draw, or why there are none. -/
abbrev Entropy := Nat → Except String (BitVec 128)

/-- The id made of random bits: their hexadecimal digits in groups of 8, 4, 4, 4 and 12. -/
def EntityId.ofBits (bits : BitVec 128) : EntityId :=
  let digits := (List.range 32).map fun i => Nat.digitChar ((bits >>> (4 * (31 - i))).toNat % 16)
  let group (start length : Nat) := (digits.drop start).take length
  ⟨String.ofList
    (group 0 8 ++ '-' :: group 8 4 ++ '-' :: group 12 4 ++ '-' :: group 16 4 ++
      '-' :: group 20 12)⟩

namespace Store

/-- An empty registry. -/
def empty (token : Option String) : Store := ⟨.empty, token, none, 0, 0, 0⟩

/-- The headers present the token, if one is needed. -/
def isAuthorized (s : Store) (headers : Headers) : Bool :=
  match s.token with
  | none => true
  | some token =>
    headers.any fun h =>
      Text.sameIgnoringCase h.1 "authorization" && h.2 == "Bearer " ++ token

/-- The answer to a call without the token. -/
def unauthorized : TransportError := ⟨401, "unauthorized"⟩

/-- Creations are to fail from now on. -/
def isFailing (s : Store) : Bool :=
  match s.failAfter with
  | none => false
  | some limit => limit ≤ s.created

/-- Counts a creation that succeeded, and answers with the entity as it is stored. -/
def succeed (s : Store) (id : EntityId) : Except TransportError CreatedEntity × Store :=
  let attributes := match s.contents.entity? id with
    | some e => .obj e.attributes
    | none => .null
  (.ok ⟨id, attributes⟩, { s with created := s.created + 1 })

/-- Stores an entity that is not there, under an id made of the next random bits. -/
def addNew (entropy : Entropy) (s : Store) (d : Definition) :
    Except TransportError CreatedEntity × Store :=
  let next := { s with drawn := s.drawn + 1 }
  match entropy s.drawn with
  | .error reason => (.error ⟨500, "failed to generate id: " ++ reason⟩, next)
  | .ok bits =>
    let id := EntityId.ofBits bits
    { next with contents := s.contents.add d id }.succeed id

/-- Carries out a creation: an entity that is there is not stored again. -/
def place (entropy : Entropy) (s : Store) : Creation → Except TransportError CreatedEntity × Store
  | .existing id => s.succeed id
  | .define d =>
    match s.contents.known? d with
    | .error e => (.error e, s)
    | .ok (some id) => { s with contents := s.contents.enlist d.anchor id }.succeed id
    | .ok none => s.addNew entropy d

/-- Answers a call to create an entity. A call that is not authorised is not counted. -/
def create (entropy : Entropy) (path : List String) (body : Json) (headers : Headers)
    (s : Store) : Except TransportError CreatedEntity × Store :=
  if s.isAuthorized headers then
    let s := { s with createCalls := s.createCalls + 1 }
    if s.isFailing then (.error ⟨500, "injected create failure"⟩, s)
    else
      match body with
      | .obj attributes =>
        match Creation.ofCall s.contents path attributes with
        | .error e => (.error e, s)
        | .ok creation => s.place entropy creation
      | _ => (.error (.badRequest "request body must be a JSON object"), s)
  else (.error unauthorized, s)

/-- Answers a call to read a project, its features, or what depends on an entity. -/
def read (path : List String) (headers : Headers) (s : Store) : Except TransportError Json :=
  if s.isAuthorized headers then
    match path with
    | ["projects", name] => (s.contents.payload name).map ProjectPayload.toJson
    | ["projects", name, "features"] =>
      (s.contents.features name).map fun es => .arr (es.map Entity.toJson)
    | ["dependent", qualifiedName] =>
      match s.contents.find? qualifiedName with
      | some e => .ok (.arr ((s.contents.dependents e.guid).map Entity.toJson))
      | none => .error (.notFound qualifiedName)
    | path => .error (.notFound ("/".intercalate path))
  else .error unauthorized

/-- Answers a call to delete an entity, which is refused while others depend on it. -/
def delete (path : List String) (headers : Headers) (s : Store) :
    Except TransportError Json × Store :=
  if s.isAuthorized headers then
    match path with
    | ["entity", qualifiedName] =>
      match s.contents.find? qualifiedName with
      | none => (.error (.notFound qualifiedName), s)
      | some e =>
        if (s.contents.dependents e.guid).isEmpty then
          (.ok e.guid.reference, { s with contents := s.contents.remove e.guid })
        else
          (.error (.badRequest ("entity `" ++ qualifiedName ++ "` has dependent entities")), s)
    | path => (.error (.notFound ("/".intercalate path)), s)
  else (.error unauthorized, s)

/-- Replaces the attributes of an entity, and says whether there is one with that id. -/
def overwrite (s : Store) (id : EntityId) (attributes : Bag) : Bool × Store :=
  ( s.contents.entities.contains id.text,
    { s with contents := s.contents.modifyAttributes id fun _ => attributes } )

/-- The calls of a session with the registry. -/
def session (entropy : Entropy) : Session Store where
  create := create entropy
  read path headers s := (s.read path headers, s)
  delete := delete

end Store

end FeatureCatalog
