import FeatureCatalog.Json.Mismatch

/-! Readers of JSON values. A record is read from an object, whose entries are checked in their
order before a missing field is noticed, or from a list with one item for each field in turn. -/

namespace FeatureCatalog

/-- A reader of values of type `α`. -/
abbrev Decoder (α : Type) := Json → Except Mismatch α

namespace Decoder

variable {α β : Type}

/-- Any value at all. -/
def any : Decoder Json := .ok

/-- A string. -/
def text : Decoder String
  | .str s => .ok s
  | j => .error (.wrongType j.found .text)

/-- An unsigned integer of 64 bits. -/
def word : Decoder UInt64
  | .num n =>
    match n with
    | .integer _ _ =>
      match n.toUInt64? with
      | some w => .ok w
      | none => .error (.wrongValue (.number n) .word)
    | .float _ => .error (.wrongType (.number n) .word)
  | j => .error (.wrongType j.found .word)

/-- `null` for nothing, and otherwise what `d` reads. -/
def nullable (d : Decoder α) : Decoder (Option α)
  | .null => .ok none
  | j => (d j).map some

/-- The items of a list, up to the first that `d` refuses. -/
def items (d : Decoder α) : List Json → Except Mismatch (List α)
  | [] => .ok []
  | item :: rest => do
    let a ← d item
    let as ← items d rest
    return a :: as

/-- A list. -/
def list (d : Decoder α) : Decoder (List α)
  | .arr js => items d js
  | j => .error (.wrongType j.found .list)

/-- The values of an entry list, up to the first that `d` refuses. -/
def values (d : Decoder α) : Bag → Except Mismatch (List (String × α))
  | [] => .ok []
  | (key, value) :: rest => do
    let a ← d value
    let as ← values d rest
    return (key, a) :: as

/-- An object with arbitrary keys. -/
def dict (d : Decoder α) : Decoder (Dict α)
  | .obj entries => (values d entries).map Dict.ofList
  | j => .error (.wrongType j.found .object)

/-- An object as it is. -/
def bag : Decoder Bag
  | .obj entries => .ok entries
  | j => .error (.wrongType j.found .object)

/-- The value that goes by a name. -/
def variant (variants : List (String × α)) (name : String) : Except Mismatch α :=
  match Entries.get? name variants with
  | some a => .ok a
  | none => .error (.unknownVariant name (variants.map (·.1)))

/-- One of several named values: its name, or an object whose only entry has that name and
`null`. -/
def choice (variants : List (String × α)) : Decoder α
  | .str name => variant variants name
  | .obj [(name, value)] => do
    let a ← variant variants name
    match value with
    | .null => .ok a
    | j => .error (.wrongType j.found .unit)
  | .obj _ => .error (.wrongValue .object .singleEntry)
  | j => .error (.wrongType j.found .choice)

end Decoder

/-- A field of a record as the check of an object's entries sees it: the keys that may hold it, its
own name first, and whether a value suits it. -/
structure FieldSpec where
  name : String
  aliases : List String
  check : Json → Except Mismatch Unit

/-- The field goes by the key. -/
def FieldSpec.goesBy (field : FieldSpec) (key : String) : Bool :=
  key == field.name || field.aliases.contains key

/-- A reader of records: its fields in their declared order, how to build a record from an object
whose entries have been checked, and how to take one from the front of a list, given the index of
its first field and the mismatch to report for a field that the list does not reach. -/
structure Record (α : Type) where
  fields : List FieldSpec
  ofEntries : Bag → Except Mismatch α
  ofItems : (short : Nat → Mismatch) → (index : Nat) → List Json →
    Except Mismatch (α × List Json)

namespace Record

variable {α β : Type}

/-- A record without fields. -/
def pure (a : α) : Record α where
  fields := []
  ofEntries _ := .ok a
  ofItems _ _ items := .ok (a, items)

/-- The fields of `f` and then those of `x`. -/
def seq (f : Record (α → β)) (x : Record α) : Record β where
  fields := f.fields ++ x.fields
  ofEntries entries := do
    let g ← f.ofEntries entries
    let a ← x.ofEntries entries
    return g a
  ofItems short index items := do
    let (g, rest) ← f.ofItems short index items
    let (a, rest) ← x.ofItems short (index + f.fields.length) rest
    return (g a, rest)

instance : Functor Record where
  map f x := (Record.pure f).seq x

instance : Pure Record := ⟨Record.pure⟩

instance : Seq Record := ⟨fun f x => f.seq (x ())⟩

/-- The value of the first entry whose key is the field's name or one of its aliases. -/
def valueOf? (name : String) (aliases : List String) : Bag → Option Json
  | [] => none
  | (key, value) :: rest =>
    if key == name || aliases.contains key then some value else valueOf? name aliases rest

/-- A field with a value for its absence, or none if it must be there. -/
def field (name : String) (aliases : List String) (d : Decoder α) (absent : Option α) :
    Record α where
  fields := [⟨name, aliases, fun j => (d j).map fun _ => ()⟩]
  ofEntries entries :=
    match valueOf? name aliases entries, absent with
    | some j, _ => d j
    | none, some a => .ok a
    | none, none => .error (.missingField name)
  ofItems short index items :=
    match items, absent with
    | j :: rest, _ => (d j).map fun a => (a, rest)
    | [], some a => .ok (a, [])
    | [], none => .error (short index)

/-- A field that must be there. -/
def required (name : String) (d : Decoder α) : Record α := field name [] d none

/-- A field that must be there, under its name or an alias. -/
def requiredAs (name : String) (aliases : List String) (d : Decoder α) : Record α :=
  field name aliases d none

/-- A field that has the value `absent` where it is not given. -/
def defaulted (name : String) (d : Decoder α) (absent : α) : Record α :=
  field name [] d (some absent)

/-- A field that may be absent or `null`. -/
def optional (name : String) (d : Decoder α) : Record (Option α) :=
  field name [] d.nullable (some none)

/-- Checks the entries in turn: an entry whose key belongs to no field is passed over, and a field
must not occur twice. `seen` holds the names of the fields met before. -/
def checkEntries (fields : List FieldSpec) (seen : List String) : Bag → Except Mismatch Unit
  | [] => .ok ()
  | (key, value) :: rest =>
    match fields.find? (·.goesBy key) with
    | none => checkEntries fields seen rest
    | some f =>
      if seen.contains f.name then .error (.duplicateField f.name)
      else do
        f.check value
        checkEntries fields (f.name :: seen) rest

/-- Reads a record from the entries of an object. -/
def ofBag (r : Record α) (entries : Bag) : Except Mismatch α := do
  checkEntries r.fields [] entries
  r.ofEntries entries

/-- Reads a record called `name` from an object or from a list of its fields. -/
def decoder (r : Record α) (name : String) : Decoder α
  | .obj entries => r.ofBag entries
  | .arr items => do
    let (a, rest) ← r.ofItems (fun n => .tooShort n name r.fields.length) 0 items
    if rest.isEmpty then return a else .error (.tooLong items.length)
  | j => .error (.wrongType j.found (.record name))

end Record

end FeatureCatalog
