import FeatureCatalog.Dict
import FeatureCatalog.Binary64

/-! JSON values. An object is the list of its entries in code point order of the keys;
`Json.Ordered` says so of every object in a value. Numbers are integers of 64 bits or floating-point
numbers, which are never equal to each other, and `Json.same` is the equality that follows from
this. -/

namespace FeatureCatalog

/-- The integers that a JSON number can be: those of 64 bits, signed or unsigned. -/
def Number.InRange (n : Int) : Prop :=
  -0x8000000000000000 ≤ n ∧ n < 0x10000000000000000

instance (n : Int) : Decidable (Number.InRange n) := by
  unfold Number.InRange
  infer_instance

/-- A JSON number. -/
inductive Number where
  | integer (value : Int) (inRange : Number.InRange value)
  | float (value : Binary64)
  deriving DecidableEq

namespace Number

/-- The number of an unsigned word. -/
def ofUInt64 (n : UInt64) : Number :=
  .integer n.toNat ⟨by omega, by have := n.toNat_lt; omega⟩

/-- The unsigned word that the number is. -/
def toUInt64? : Number → Option UInt64
  | .integer n _ => if 0 ≤ n then some (UInt64.ofNat n.toNat) else none
  | .float _ => none

/-- Integers are equal to themselves alone, and floating-point numbers are compared by value. -/
def same : Number → Number → Bool
  | .integer a _, .integer b _ => a == b
  | .float a, .float b => a.same b
  | _, _ => false

@[simp] theorem toUInt64?_ofUInt64 (n : UInt64) : (ofUInt64 n).toUInt64? = some n := by
  simp [ofUInt64, toUInt64?]

end Number

/-- A JSON value. -/
inductive Json where
  | null
  | bool (value : Bool)
  | num (value : Number)
  | str (text : String)
  | arr (items : List Json)
  | obj (entries : List (String × Json))
  deriving Inhabited

/-- The entries of a JSON object that describes an entity. -/
abbrev Bag := List (String × Json)

namespace Json

mutual

/-- Equality of values, in which the two floating-point zeros are equal. -/
def same : Json → Json → Bool
  | .null, .null => true
  | .bool a, .bool b => a == b
  | .num a, .num b => a.same b
  | .str a, .str b => a == b
  | .arr a, .arr b => sameItems a b
  | .obj a, .obj b => sameEntries a b
  | _, _ => false

/-- The lists have the same length, and their items are the same in turn. -/
def sameItems : List Json → List Json → Bool
  | [], [] => true
  | a :: as, b :: bs => a.same b && sameItems as bs
  | _, _ => false

/-- The lists have the same keys in turn, and the same values at them. -/
def sameEntries : List (String × Json) → List (String × Json) → Bool
  | [], [] => true
  | (j, a) :: as, (k, b) :: bs => j == k && a.same b && sameEntries as bs
  | _, _ => false

end

mutual

/-- In every object of the value the keys rise strictly. -/
def Ordered : Json → Prop
  | .null | .bool _ | .num _ | .str _ => True
  | .arr items => OrderedItems items
  | .obj entries => Entries.Ordered entries ∧ OrderedValues entries

/-- `Ordered` of all items of a list. -/
def OrderedItems : List Json → Prop
  | [] => True
  | item :: rest => item.Ordered ∧ OrderedItems rest

/-- `Ordered` of all values of an entry list. -/
def OrderedValues : List (String × Json) → Prop
  | [] => True
  | (_, value) :: rest => value.Ordered ∧ OrderedValues rest

end

/-- The text of a string value. -/
def text? : Json → Option String
  | .str s => some s
  | _ => none

/-- The entries of an object. -/
def entries? : Json → Option Bag
  | .obj entries => some entries
  | _ => none

/-- The value at `key` of an object. -/
def field? (key : String) : Json → Option Json
  | .obj entries => Entries.get? key entries
  | _ => none

/-- The object with the given entries, the last one of each key. -/
def ofEntries (entries : List (String × Json)) : Json := .obj (Entries.ofList entries)

/-- A list of strings. -/
def ofTexts (texts : List String) : Json := .arr (texts.map .str)

/-- A dictionary of strings. -/
def ofTags (tags : Dict String) : Json := .obj (tags.mapValues .str).entries

end Json

/-- The text at `key` of a bag. -/
def Bag.text? (bag : Bag) (key : String) : Option String :=
  (Entries.get? key bag).bind Json.text?

/-- An entry for a text, if there is one. -/
def Bag.ofText? (key : String) (text : Option String) : Bag :=
  (text.map fun s => (key, Json.str s)).toList

end FeatureCatalog
