import FeatureCatalog.Text.Numeral

/-! IPv4 addresses as hosts: up to four numbers with points between them, each of which may be
decimal, octal or hexadecimal. Each number but the last is one byte, and the last one fills the
bytes that are left. -/

namespace FeatureCatalog.Url

open Text

/-- An IPv4 address. -/
structure Ipv4 where
  bits : BitVec 32
  deriving DecidableEq

namespace Ipv4

/-- The number that a part of an address denotes: hexadecimal after `0x`, octal after another `0`,
and decimal otherwise. -/
def number? : List Char → Option Nat
  | [] => none
  | '0' :: 'x' :: digits => ofNumeral? 16 digits
  | '0' :: digits => ofNumeral? 8 digits
  | digits => ofNumeral? 10 digits

/-- A host that ends in this label has to be an address: the label is a number, or has decimal
digits alone and is a faulty octal number. -/
def isNumeric (label : List Char) : Bool :=
  label ≠ [] && label.all Char.isDigit || (number? label).isSome

/-- The address with these numbers. -/
def ofNumbers? (numbers : List Nat) : Option Ipv4 :=
  match numbers.getLast? with
  | none => none
  | some last =>
    let bytes := numbers.dropLast
    let room := Nat.pow 256 (4 - bytes.length)
    if bytes.length < 4 ∧ bytes.all (· < 256) ∧ last < room then
      some ⟨BitVec.ofNat 32 (bytes.foldl (fun n b => n * 256 + b) 0 * room + last)⟩
    else none

/-- The labels of a host, less an empty one at the end behind another. -/
def trimEnd (labels : List (List Char)) : List (List Char) :=
  if 1 < labels.length ∧ labels.getLast? = some [] then labels.dropLast else labels

/-- The host has to be an address. -/
def mustBe (labels : List (List Char)) : Bool :=
  ((trimEnd labels).getLast?).any isNumeric

/-- The address that the labels denote. -/
def ofLabels? (labels : List (List Char)) : Option Ipv4 := do
  ofNumbers? (← (trimEnd labels).mapM number?)

/-- The four bytes of an address in decimal. -/
def text (a : Ipv4) : List Char :=
  ['.'].intercalate ([24, 16, 8, 0].map fun shift =>
    Nat.toDigits 10 ((a.bits >>> shift).toNat % 256))

end Ipv4

end FeatureCatalog.Url
