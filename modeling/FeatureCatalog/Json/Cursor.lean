import FeatureCatalog.Json

/-! Positions in a JSON text and the ways in which a text fails to be JSON. A reader holds a
`Cursor`, the characters not yet read together with the position that has been reached. -/

namespace FeatureCatalog.Json

/-- A line, counted from 1, and the number of bytes of that line before the position. -/
structure Position where
  line : Nat
  column : Nat
  deriving DecidableEq, Inhabited

namespace Position

/-- The start of a text. -/
def start : Position := ⟨1, 0⟩

/-- The position after a character. -/
def past (p : Position) (c : Char) : Position :=
  if c = '\n' then ⟨p.line + 1, 0⟩ else ⟨p.line, p.column + c.utf8Size⟩

/-- The position after several characters. -/
def pastAll (p : Position) (cs : List Char) : Position := cs.foldl past p

/-- The position `n` bytes on, which may lie inside a character. -/
def pastBytes (p : Position) (n : Nat) : List Char → Position
  | [] => p
  | c :: rest =>
    if n < c.utf8Size then ⟨p.line, p.column + n⟩
    else (p.past c).pastBytes (n - c.utf8Size) rest

end Position

/-- The ways in which a text fails to be JSON. -/
inductive SyntaxFault where
  | endInList
  | endInObject
  | endInString
  | endInValue
  | expectedColon
  | expectedCommaOrBracket
  | expectedCommaOrBrace
  | expectedWord
  | expectedValue
  | keyNotString
  | trailingComma
  | trailingCharacters
  | invalidNumber
  | numberOutOfRange
  | invalidEscape
  | controlCharacter
  | loneSurrogate
  | endOfSurrogatePair
  deriving DecidableEq

/-- The wording of a syntax fault. -/
def SyntaxFault.message : SyntaxFault → String
  | .endInList => "EOF while parsing a list"
  | .endInObject => "EOF while parsing an object"
  | .endInString => "EOF while parsing a string"
  | .endInValue => "EOF while parsing a value"
  | .expectedColon => "expected `:`"
  | .expectedCommaOrBracket => "expected `,` or `]`"
  | .expectedCommaOrBrace => "expected `,` or `\x7d`"
  | .expectedWord => "expected ident"
  | .expectedValue => "expected value"
  | .keyNotString => "key must be a string"
  | .trailingComma => "trailing comma"
  | .trailingCharacters => "trailing characters"
  | .invalidNumber => "invalid number"
  | .numberOutOfRange => "number out of range"
  | .invalidEscape => "invalid escape"
  | .controlCharacter => "control character (\\u0000-\\u001F) found while parsing a string"
  | .loneSurrogate => "lone leading surrogate in hex escape"
  | .endOfSurrogatePair => "unexpected end of hex escape"

/-- The part of a text that has not been read, and where it starts. -/
structure Cursor where
  rest : List Char
  position : Position

namespace Cursor

/-- The cursor before the first character of a text. -/
def ofText (text : String) : Cursor := ⟨text.toList, .start⟩

/-- A cursor with less to read than `c`. -/
abbrev Beyond (c : Cursor) := { d : Cursor // d.rest.length < c.rest.length }

/-- A cursor with no more to read than `c`. -/
abbrev From (c : Cursor) := { d : Cursor // d.rest.length ≤ c.rest.length }

/-- A cursor further on is not before. -/
def Beyond.toFrom {c : Cursor} (d : c.Beyond) : c.From := ⟨d.val, Nat.le_of_lt d.property⟩

/-- Further on than a cursor further on. -/
def Beyond.trans {c : Cursor} (d : c.Beyond) (e : d.val.Beyond) : c.Beyond :=
  ⟨e.val, Nat.lt_trans e.property d.property⟩

/-- Not before a cursor further on. -/
def Beyond.from {c : Cursor} (d : c.Beyond) (e : d.val.From) : c.Beyond :=
  ⟨e.val, Nat.lt_of_le_of_lt e.property d.property⟩

/-- Further on than a cursor not before. -/
def From.beyond {c : Cursor} (d : c.From) (e : d.val.Beyond) : c.Beyond :=
  ⟨e.val, Nat.lt_of_lt_of_le e.property d.property⟩

/-- The next character, if there is one. -/
def peek? (c : Cursor) : Option Char := c.rest.head?

/-- The next character and the cursor after it. -/
def next? (c : Cursor) : Option (Char × c.Beyond) :=
  match h : c.rest with
  | [] => none
  | x :: rest => some (x, ⟨⟨rest, c.position.past x⟩, by simp [h]⟩)

/-- Skips the characters up to the first that fails `p`. -/
def skipWhile (p : Char → Bool) (c : Cursor) : c.From :=
  ⟨⟨c.rest.dropWhile p, c.position.pastAll (c.rest.takeWhile p)⟩,
    (List.dropWhile_sublist p).length_le⟩

/-- Blanks between the tokens of a text. -/
def isBlank (x : Char) : Bool := x == ' ' || x == '\n' || x == '\t' || x == '\r'

/-- Skips blanks. -/
def skipBlank (c : Cursor) : c.From := c.skipWhile isBlank

/-- The position inside the next character, after its first byte, or the end of the text. A fault
that the next character causes is reported there. -/
def inside (c : Cursor) : Position :=
  match c.rest with
  | [] => c.position
  | x :: _ => if x = '\n' then c.position.past x else ⟨c.position.line, c.position.column + 1⟩

end Cursor

end FeatureCatalog.Json
