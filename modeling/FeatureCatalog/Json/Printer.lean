import FeatureCatalog.Json
import FeatureCatalog.Binary64.Shortest

/-! The compact text of a JSON value: no blanks, objects in the order of their entries, and escapes
only where JSON demands them. -/

namespace FeatureCatalog

/-- The text of a number: an integer in decimal digits, a floating-point number in its shortest
form. -/
def Number.print : Number → String
  | .integer n _ => toString n
  | .float x => x.text

namespace Json

/-- The escape of a character inside a quoted text: quote, backslash and control characters have
one, and all other characters stand for themselves. -/
def escape (c : Char) : List Char :=
  match c with
  | '\x22' => ['\\', '\x22']
  | '\\' => ['\\', '\\']
  | '\x08' => ['\\', 'b']
  | '\t' => ['\\', 't']
  | '\n' => ['\\', 'n']
  | '\x0c' => ['\\', 'f']
  | '\r' => ['\\', 'r']
  | c =>
    if c.toNat < 0x20 then
      ['\\', 'u', '0', '0', Nat.digitChar (c.toNat / 16), Nat.digitChar (c.toNat % 16)]
    else [c]

/-- A text in quotes. -/
def printText (s : String) : String :=
  String.ofList ('\x22' :: s.toList.flatMap escape ++ ['\x22'])

mutual

/-- The compact text of a value. -/
def print : Json → String
  | .null => "null"
  | .bool true => "true"
  | .bool false => "false"
  | .num n => n.print
  | .str s => printText s
  | .arr items => "[" ++ ",".intercalate (printItems items) ++ "]"
  | .obj entries => "\x7b" ++ ",".intercalate (printEntries entries) ++ "\x7d"

/-- The texts of the items. -/
def printItems : List Json → List String
  | [] => []
  | item :: rest => print item :: printItems rest

/-- The texts of the entries. -/
def printEntries : List (String × Json) → List String
  | [] => []
  | (key, value) :: rest => (printText key ++ ":" ++ print value) :: printEntries rest

end

end Json

end FeatureCatalog
