import FeatureCatalog.Text.Numeral
import FeatureCatalog.Url.Percent

/-! Pairs of texts in a query: each pair is a name and a value around `=`, the pairs are joined by
`&`, a space is written as `+`, and every byte of another character that is not a plain letter,
digit or one of `*`, `-`, `.` and `_` is written as `%` and two hexadecimal digits. -/

namespace FeatureCatalog.Url

open Text

/-- The character stands for itself in a query. -/
def isPlain (c : Char) : Bool :=
  c.isAlphanum || c == '*' || c == '-' || c == '.' || c == '_'

/-- A character in a query. -/
def formChar (c : Char) : List Char :=
  if c = ' ' then ['+']
  else if isPlain c then [c]
  else (String.utf8EncodeChar c).flatMap escapeByte

/-- A text in a query. -/
def formText (cs : List Char) : List Char := cs.flatMap formChar

/-- The text that a part of a query stands for. -/
def ofFormText (cs : List Char) : List Char :=
  ofUtf8 (unescapeBytes ((utf8 cs).map fun b => if b = 0x2B then 0x20 else b))

/-- The pairs as a query. -/
def printForm (pairs : List (String × String)) : List Char :=
  ['&'].intercalate
    (pairs.map fun p => formText p.1.toList ++ '=' :: formText p.2.toList)

/-- The pairs of a query. Empty pieces are passed over, and a piece without `=` has an empty
value. -/
def parseForm (query : List Char) : List (String × String) :=
  ((pieces '&' query).filter fun piece => piece ≠ []).map fun piece =>
    let (name, value) := cut '=' piece
    (String.ofList (ofFormText name), String.ofList (ofFormText value))

end FeatureCatalog.Url
