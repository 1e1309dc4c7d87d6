/-! The parts of a text between separators, and the numerals that such parts are often: in a base of
at most sixteen, with letters of either case for the digits from ten on. -/

namespace FeatureCatalog.Text

/-- The part before the first `stop`, and the part after it, which is empty if there is no
`stop`. -/
def cut (stop : Char) : List Char → List Char × List Char
  | [] => ([], [])
  | c :: rest =>
    if c = stop then ([], rest)
    else
      let (before, after) := cut stop rest
      (c :: before, after)

/-- The pieces between the occurrences of `stop`. -/
def pieces (stop : Char) : List Char → List (List Char)
  | [] => [[]]
  | c :: rest =>
    if c = stop then [] :: pieces stop rest
    else
      match pieces stop rest with
      | [] => [[c]]
      | piece :: more => (c :: piece) :: more

/-- The value of a digit. -/
def digitValue? (c : Char) : Option Nat :=
  if '0' ≤ c ∧ c ≤ '9' then some (c.toNat - '0'.toNat)
  else if 'a' ≤ c ∧ c ≤ 'f' then some (c.toNat - 'a'.toNat + 10)
  else if 'A' ≤ c ∧ c ≤ 'F' then some (c.toNat - 'A'.toNat + 10)
  else none

/-- The number that the digits denote after those of `n`, if all are digits of the base. -/
def extendNumeral? (base n : Nat) : List Char → Option Nat
  | [] => some n
  | c :: rest =>
    match digitValue? c with
    | some d => if d < base then extendNumeral? base (n * base + d) rest else none
    | none => none

/-- The number that the digits denote. No digits denote zero. -/
def ofNumeral? (base : Nat) (digits : List Char) : Option Nat := extendNumeral? base 0 digits

end FeatureCatalog.Text
