import FeatureCatalog.Json.TextFault
import FeatureCatalog.Text.Numeral

/-! Reading of the words, strings and numbers of a JSON text. Where a value is passed over, its
strings and numbers are read in a coarser way, which `skipString` and `skipNumber` follow. -/

namespace FeatureCatalog.Json.Cursor

/-- Reads the rest of a word such as `null`. -/
def word : List Char → (c : Cursor) → Except TextFault c.From
  | [], c => .ok ⟨c, Nat.le_refl _⟩
  | x :: xs, c =>
    match c.next? with
    | none => c.fail .endInValue
    | some (y, d) =>
      if x = y then do
        let e ← word xs d.val
        return (d.from e).toFrom
      else c.failInside .expectedWord

/-- Reads the four hexadecimal digits of an escape. Four bytes are taken before they are looked
at. -/
def hexCode (c : Cursor) : Except TextFault (Nat × c.Beyond) :=
  match h : c.rest.map Text.digitValue?, hc : c.rest with
  | some x :: some y :: some z :: some w :: _, _ :: _ :: _ :: _ :: rest =>
    .ok (((x * 16 + y) * 16 + z) * 16 + w,
      ⟨⟨rest, ⟨c.position.line, c.position.column + 4⟩⟩, by simp [hc]; omega⟩)
  | _, rest =>
    if rest.foldl (fun n x => n + x.utf8Size) 0 < 4 then
      .error (.notJson .endInString (c.position.pastAll rest))
    else .error (.notJson .invalidEscape (c.position.pastBytes 4 rest))

/-- The code is the first half of a pair of surrogates. -/
def isFirstSurrogate (n : Nat) : Bool := 0xD800 ≤ n && n ≤ 0xDBFF

/-- The code is the second half of a pair of surrogates. -/
def isSecondSurrogate (n : Nat) : Bool := 0xDC00 ≤ n && n ≤ 0xDFFF

/-- Reads the escape of a character by its code, after the `u`. A character beyond the first 65536
is escaped as a pair of surrogates, and surrogates occur in pairs only. -/
def unicodeEscape (c : Cursor) : Except TextFault (Char × c.Beyond) := do
  let (first, d) ← c.hexCode
  if isSecondSurrogate first then d.val.fail .loneSurrogate
  else if isFirstSurrogate first then
    match d.val.next? with
    | none => d.val.fail .endInString
    | some ('\\', e) =>
      match e.val.next? with
      | none => e.val.fail .endInString
      | some ('u', f) => do
        let (second, g) ← f.val.hexCode
        if isSecondSurrogate second then
          return (Char.ofNat (0x10000 + (first - 0xD800) * 0x400 + (second - 0xDC00)),
            d.trans (e.trans (f.trans g)))
        else g.val.fail .loneSurrogate
      | some _ => e.val.failInside .endOfSurrogatePair
    | some _ => d.val.failInside .endOfSurrogatePair
  else return (Char.ofNat first, d)

/-- The character that a letter after a backslash stands for. -/
def escaped? (x : Char) : Option Char :=
  match x with
  | '\x22' => some '\x22'
  | '\\' => some '\\'
  | '/' => some '/'
  | 'b' => some '\x08'
  | 'f' => some '\x0c'
  | 'n' => some '\n'
  | 'r' => some '\r'
  | 't' => some '\t'
  | _ => none

/-- Reads an escape after the backslash. -/
def escape (c : Cursor) : Except TextFault (Char × c.Beyond) :=
  match c.next? with
  | none => c.fail .endInString
  | some ('u', d) => do
    let (x, e) ← unicodeEscape d.val
    return (x, d.trans e)
  | some (x, d) =>
    match escaped? x with
    | some y => .ok (y, d)
    | none => c.failInside .invalidEscape

/-- Reads the rest of a string whose first characters, the last of them first, are `read`. -/
def stringFrom (read : List Char) (c : Cursor) : Except TextFault (String × c.Beyond) :=
  match c.next? with
  | none => c.fail .endInString
  | some ('\x22', d) => .ok (String.ofList read.reverse, d)
  | some ('\\', d) => do
    let (x, e) ← escape d.val
    let (s, f) ← stringFrom (x :: read) e.val
    return (s, d.trans (e.trans f))
  | some (x, d) =>
    if x.toNat < 0x20 then d.val.fail .controlCharacter
    else do
      let (s, e) ← stringFrom (x :: read) d.val
      return (s, d.trans e)
termination_by c.rest.length
decreasing_by
  · exact Nat.lt_trans e.property d.property
  · exact d.property

/-- Reads a string after its opening quote. -/
def string (c : Cursor) : Except TextFault (String × c.Beyond) := stringFrom [] c

/-- Passes over an escape after the backslash: the code of a character need not make sense. -/
def skipEscape (c : Cursor) : Except TextFault c.Beyond :=
  match c.next? with
  | none => c.fail .endInString
  | some ('u', d) => do
    let (_, e) ← d.val.hexCode
    return d.trans e
  | some (x, d) =>
    match escaped? x with
    | some _ => .ok d
    | none => c.failInside .invalidEscape

/-- Passes over a string after its opening quote. -/
def skipString (c : Cursor) : Except TextFault c.Beyond :=
  match c.next? with
  | none => c.fail .endInString
  | some ('\x22', d) => .ok d
  | some ('\\', d) => do
    let e ← skipEscape d.val
    let f ← skipString e.val
    return d.trans (e.trans f)
  | some (x, d) =>
    if x.toNat < 0x20 then c.fail .controlCharacter
    else do
      let e ← skipString d.val
      return d.trans e
termination_by c.rest.length
decreasing_by
  · exact Nat.lt_trans e.property d.property
  · exact d.property

/-- Appends decimal digits to `n` while it stays below `limit`, and returns those left over. -/
def appendDigits (limit n : Nat) : List Char → Nat × List Char
  | [] => (n, [])
  | x :: rest =>
    let next := n * 10 + (x.toNat - '0'.toNat)
    if next < limit then appendDigits limit next rest else (n, x :: rest)

/-- The digits that come next. -/
def digits (c : Cursor) : List Char := c.rest.takeWhile Char.isDigit

/-- Passes over digits. -/
def skipDigits (c : Cursor) : c.From := c.skipWhile Char.isDigit

/-- The next character is a digit. -/
def atDigit (c : Cursor) : Bool := (c.peek?.map Char.isDigit).getD false

/-- The next character starts an exponent. -/
def atExponent (c : Cursor) : Bool := c.peek? == some 'e' || c.peek? == some 'E'

/-- Passes over the next character if it is one of `xs`. -/
def skipOne (xs : List Char) (c : Cursor) : c.From :=
  match c.next? with
  | some (x, d) => if xs.contains x then d.toFrom else ⟨c, Nat.le_refl _⟩
  | none => ⟨c, Nat.le_refl _⟩

/-- Passes over the digits before the point, of which only the first may be a zero, and only if it
is alone. `atEnd` is the fault of a text that ends before them. -/
def wholeDigits (atEnd : SyntaxFault) (c : Cursor) : Except TextFault c.Beyond :=
  match c.next? with
  | none => c.fail atEnd
  | some ('0', d) => if d.val.atDigit then d.val.failInside .invalidNumber else .ok d
  | some (x, d) =>
    if x.isDigit then .ok (d.from d.val.skipDigits) else c.failInside .invalidNumber

/-- Passes over digits, of which there must be one. `atEnd` is the fault of a text that ends before
them. -/
def someDigits (atEnd : SyntaxFault) (c : Cursor) : Except TextFault c.Beyond :=
  match c.next? with
  | none => c.fail atEnd
  | some (x, d) =>
    if x.isDigit then .ok (d.from d.val.skipDigits) else c.failInside .invalidNumber

/-- The number with the given sign and significand, where no point and no exponent follow: an
integer if it can be one, and not the negative zero. -/
def integerOf (negative : Bool) (significand : Nat) : Option Number :=
  let n : Int := if negative then -significand else significand
  if h : Number.InRange n ∧ ¬(negative ∧ significand = 0) then some (.integer n h.1)
  else (Binary64.ofDecimal? negative significand 0).map .float

/-- The number with the given decimal parts, or the fault at the cursor if it is out of range. -/
def floatOf (c : Cursor) (negative : Bool) (significand : Nat) (exponent : Int) :
    Except TextFault Number :=
  match Binary64.ofDecimal? negative significand exponent with
  | some x => .ok (.float x)
  | none => c.fail .numberOutOfRange

/-- Reads the exponent of a number after its `e`. An exponent of more than 31 bits makes a number
zero or puts it out of range. -/
def exponent (negative : Bool) (significand : Nat) (shift : Int) (c : Cursor) :
    Except TextFault (Number × c.Beyond) := do
  let d := c.skipOne ['+', '-']
  let e ← d.val.someDigits .endInValue
  let (n, left) := appendDigits 0x80000000 0 d.val.digits
  let next := d.beyond e
  match left with
  | [] =>
    let x ← floatOf e.val negative significand (if c.peek? = some '-' then shift - n else shift + n)
    return (x, next)
  | _ :: rest =>
    if significand ≠ 0 ∧ c.peek? ≠ some '-' then
      let p := d.val.position
      .error
        (.notJson .numberOutOfRange ⟨p.line, p.column + (d.val.digits.length - rest.length)⟩)
    else return (.float (.zero negative), next)

/-- Reads a number after its sign. The digits make up a significand of 64 bits as far as they
fit. -/
def number (negative : Bool) (c : Cursor) : Except TextFault (Number × c.Beyond) := do
  let d ← c.wholeDigits .endInValue
  let (whole, left) := appendDigits 0x10000000000000000 0 c.digits
  match d.val.next? with
  | some ('.', e) =>
    let f ← e.val.someDigits .endInValue
    let (significand, left') := appendDigits 0x10000000000000000 whole e.val.digits
    let shift : Int := left.length - (e.val.digits.length - left'.length : Nat)
    let before := d.trans (e.trans f)
    if f.val.atExponent then
      let g := f.val.skipOne ['e', 'E']
      let (x, h) ← g.val.exponent negative significand shift
      return (x, before.trans (g.beyond h))
    else return (← floatOf f.val negative significand shift, before)
  | _ =>
    if d.val.atExponent then
      let g := d.val.skipOne ['e', 'E']
      let (x, h) ← g.val.exponent negative whole left.length
      return (x, d.trans (g.beyond h))
    else if left.isEmpty then
      match integerOf negative whole with
      | some x => return (x, d)
      | none => d.val.fail .numberOutOfRange
    else return (← floatOf d.val negative whole left.length, d)

/-- Passes over a number after its sign, whatever its size. -/
def skipNumber (c : Cursor) : Except TextFault c.Beyond := do
  let d ← c.wholeDigits .invalidNumber
  let e : c.Beyond ←
    match d.val.next? with
    | some ('.', e) => do
      let f ← e.val.someDigits .invalidNumber
      pure (d.trans (e.trans f))
    | _ => pure d
  if e.val.atExponent then
    let f := e.val.skipOne ['e', 'E']
    let g := f.val.skipOne ['+', '-']
    let h ← g.val.someDigits .invalidNumber
    return e.trans (f.beyond (g.beyond h))
  else return e

end FeatureCatalog.Json.Cursor
