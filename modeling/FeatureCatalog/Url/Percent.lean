import FeatureCatalog.Text.Numeral
import FeatureCatalog.Text.Utf8

/-! Bytes in a URL, each written as `%` and two hexadecimal digits where it cannot stand for
itself. -/

namespace FeatureCatalog.Url

open Text

/-- A hexadecimal digit. -/
def hexDigit (n : Nat) : Char :=
  if n < 10 then Char.ofNat ('0'.toNat + n) else Char.ofNat ('A'.toNat + (n - 10))

/-- `%` and the two digits of a byte. -/
def escapeByte (b : UInt8) : List Char :=
  ['%', hexDigit (b.toNat / 16), hexDigit (b.toNat % 16)]

/-- The byte that two hexadecimal digits denote. -/
def byteOfHex? (high low : UInt8) : Option UInt8 := do
  let h ← digitValue? (Char.ofNat high.toNat)
  let l ← digitValue? (Char.ofNat low.toNat)
  return UInt8.ofNat (h * 16 + l)

/-- Replaces each `%` and two hexadecimal digits by the byte that they denote. Any other `%`
stays. -/
def unescapeBytes : List UInt8 → List UInt8
  | [] => []
  | [a] => [a]
  | [a, b] => [a, b]
  | a :: b :: c :: rest =>
    if a = 0x25 then
      match byteOfHex? b c with
      | some byte => byte :: unescapeBytes rest
      | none => a :: unescapeBytes (b :: c :: rest)
    else a :: unescapeBytes (b :: c :: rest)

end FeatureCatalog.Url
