import FeatureCatalog.Json.Scalar

/-! Reading of JSON texts. `Json.read` reads a whole value. A reader that wants values of certain
types only goes through an object or a list step by step, with `nextKey` and `nextItem`, and passes
over what it has no use for with `skipValue`. -/

namespace FeatureCatalog.Json

namespace Cursor

/-- What comes next in an object: the name of an entry, with the cursor after it, or the closing
brace, with the cursor before it. -/
inductive KeyStep (c : Cursor) where
  | key (name : String) (next : c.Beyond)
  | close (at_ : c.From)

/-- What comes next in a list: an item or the closing bracket, with the cursor before it. A cursor
before an item that is not the first is after a comma. -/
inductive ItemStep (c : Cursor) where
  | item (next : c.From)
  | close (at_ : c.From)

/-- Reads a key whose quote comes next, after `d`. -/
def keyAt {c : Cursor} (d : c.From) : Except TextFault (KeyStep c) :=
  match d.val.next? with
  | some ('\x22', e) => do
    let (name, f) ← e.val.string
    return .key name (d.beyond (e.trans f))
  | _ => d.val.failInside .keyNotString

/-- Goes on to the next entry of an object. `first` says that none has been read. -/
def nextKey (first : Bool) (c : Cursor) : Except TextFault (KeyStep c) :=
  let d := c.skipBlank
  match d.val.next? with
  | none => d.val.fail .endInObject
  | some ('\x7d', _) => .ok (.close d)
  | some (x, e) =>
    if first then keyAt d
    else if x = ',' then
      let f := e.val.skipBlank
      match f.val.peek? with
      | none => f.val.fail .endInValue
      | some '\x7d' => f.val.failInside .trailingComma
      | some _ => keyAt (d.beyond (e.from f)).toFrom
    else d.val.failInside .expectedCommaOrBrace

/-- Goes on to the next item of a list. `first` says that none has been read. -/
def nextItem (first : Bool) (c : Cursor) : Except TextFault (ItemStep c) :=
  let d := c.skipBlank
  match d.val.next? with
  | none => d.val.fail .endInList
  | some (']', _) => .ok (.close d)
  | some (x, e) =>
    if first then .ok (.item d)
    else if x = ',' then
      let f := e.val.skipBlank
      match f.val.peek? with
      | none => f.val.fail .endInValue
      | some ']' => f.val.failInside .trailingComma
      | some _ => .ok (.item (d.beyond (e.from f)).toFrom)
    else d.val.failInside .expectedCommaOrBracket

/-- Passes over the colon after a key. -/
def colon (c : Cursor) : Except TextFault c.Beyond :=
  let d := c.skipBlank
  match d.val.next? with
  | none => d.val.fail .endInObject
  | some (':', e) => .ok (d.beyond e)
  | some _ => d.val.failInside .expectedColon

/-- Reads the rest of a word that starts with the character before `d`. -/
def wordAt {c : Cursor} (d : c.Beyond) (rest : List Char) : Except TextFault c.Beyond := do
  return d.from (← d.val.word rest)

/-- Passes over a key and its colon. -/
def skipKey (c : Cursor) : Except TextFault c.Beyond :=
  let d := c.skipBlank
  match d.val.next? with
  | none => d.val.fail .endInObject
  | some ('\x22', e) => do
    let f ← e.val.skipString
    let g ← f.val.colon
    return d.beyond (e.trans (f.trans g))
  | some _ => d.val.failInside .keyNotString

/-- What a value that is passed over stands in. -/
inductive Enclosure where
  | list
  | object
  deriving DecidableEq

mutual

/-- Passes over a value and over the rest of what encloses it, innermost first. -/
def skipWithin (enclosing : List Enclosure) (c : Cursor) : Except TextFault c.Beyond :=
  let d := c.skipBlank
  match d.val.next? with
  | none => d.val.fail .endInValue
  | some (x, e) =>
    match x with
    | '[' => do return d.beyond (e.from (← skipRest true (.list :: enclosing) e.val))
    | '\x7b' => do return d.beyond (e.from (← skipRest true (.object :: enclosing) e.val))
    | '\x22' => do
      let f ← e.val.skipString
      return d.beyond (e.trans (f.from (← skipRest false enclosing f.val)))
    | 'n' => do
      let f ← wordAt e ['u', 'l', 'l']
      return d.beyond (f.from (← skipRest false enclosing f.val))
    | 't' => do
      let f ← wordAt e ['r', 'u', 'e']
      return d.beyond (f.from (← skipRest false enclosing f.val))
    | 'f' => do
      let f ← wordAt e ['a', 'l', 's', 'e']
      return d.beyond (f.from (← skipRest false enclosing f.val))
    | '-' => do
      let f ← e.val.skipNumber
      return d.beyond (e.trans (f.from (← skipRest false enclosing f.val)))
    | _ =>
      if x.isDigit then do
        let f ← d.val.skipNumber
        return d.beyond (f.from (← skipRest false enclosing f.val))
      else d.val.failInside .expectedValue
termination_by (c.rest.length, 0)
decreasing_by
  all_goals
    first
      | exact Prod.Lex.left _ _ (Nat.lt_of_lt_of_le e.property d.property)
      | exact Prod.Lex.left _ _
          (Nat.lt_of_lt_of_le (Nat.lt_trans f.property e.property) d.property)
      | exact Prod.Lex.left _ _ (Nat.lt_of_lt_of_le f.property d.property)

/-- Passes over the rest of what encloses a value, innermost first. `first` says that nothing in the
innermost enclosure has been passed over. -/
def skipRest (first : Bool) (enclosing : List Enclosure) (c : Cursor) :
    Except TextFault c.From :=
  match enclosing with
  | [] => .ok ⟨c, Nat.le_refl _⟩
  | inner :: outer =>
    let d := c.skipBlank
    match d.val.next? with
    | none => d.val.fail (if inner = .list then .endInList else .endInObject)
    | some (x, e) =>
      if (x = ']' ∧ inner = .list) ∨ (x = '\x7d' ∧ inner = .object) then do
        return (d.beyond (e.from (← skipRest false outer e.val))).toFrom
      else if x = ',' ∧ !first then
        match inner with
        | .list => do
          return (d.beyond (e.trans (← skipWithin enclosing e.val))).toFrom
        | .object => do
          let f ← e.val.skipKey
          return (d.beyond (e.trans (f.trans (← skipWithin enclosing f.val)))).toFrom
      else if first then
        match inner with
        | .list => do return (d.beyond (← skipWithin enclosing d.val)).toFrom
        | .object => do
          let f ← d.val.skipKey
          return (d.beyond (f.trans (← skipWithin enclosing f.val))).toFrom
      else
        d.val.failInside (if inner = .list then .expectedCommaOrBracket else .expectedCommaOrBrace)
termination_by (c.rest.length, 1)
decreasing_by
  · exact Prod.Lex.left _ _ (Nat.lt_of_lt_of_le e.property d.property)
  · exact Prod.Lex.left _ _ (Nat.lt_of_lt_of_le e.property d.property)
  · exact Prod.Lex.left _ _ (Nat.lt_of_lt_of_le (Nat.lt_trans f.property e.property) d.property)
  · rcases Nat.lt_or_eq_of_le d.property with h | h
    · exact Prod.Lex.left _ _ h
    · rw [h]; exact Prod.Lex.right _ (by decide)
  · exact Prod.Lex.left _ _ (Nat.lt_of_lt_of_le f.property d.property)

end

/-- Passes over a value. -/
def skipValue (c : Cursor) : Except TextFault c.Beyond := skipWithin [] c

mutual

/-- Reads a value. -/
def value (c : Cursor) : Except TextFault (Json × c.Beyond) :=
  let d := c.skipBlank
  match d.val.next? with
  | none => d.val.fail .endInValue
  | some (x, e) =>
    match x with
    | '[' => do
      let (items, f) ← valueItems true e.val
      return (.arr items, d.beyond (e.trans f))
    | '\x7b' => do
      let (entries, f) ← valueEntries true e.val
      return (.obj (Entries.ofList entries), d.beyond (e.trans f))
    | '\x22' => do
      let (s, f) ← e.val.string
      return (.str s, d.beyond (e.trans f))
    | 'n' => do return (.null, d.beyond (← wordAt e ['u', 'l', 'l']))
    | 't' => do return (.bool true, d.beyond (← wordAt e ['r', 'u', 'e']))
    | 'f' => do return (.bool false, d.beyond (← wordAt e ['a', 'l', 's', 'e']))
    | '-' => do
      let (n, f) ← e.val.number true
      return (.num n, d.beyond (e.trans f))
    | _ =>
      if x.isDigit then do
        let (n, f) ← d.val.number false
        return (.num n, d.beyond f)
      else d.val.failInside .expectedValue
termination_by (c.rest.length, 0)
decreasing_by
  all_goals exact Prod.Lex.left _ _ (Nat.lt_of_lt_of_le e.property d.property)

/-- Reads the items of a list and its closing bracket. -/
def valueItems (first : Bool) (c : Cursor) : Except TextFault (List Json × c.Beyond) := do
  match ← c.nextItem first with
  | .close d =>
    match d.val.next? with
    | some (_, e) => return ([], d.beyond e)
    | none => d.val.fail .endInList
  | .item d =>
    let (item, e) ← value d.val
    let (items, f) ← valueItems false e.val
    return (item :: items, d.beyond (e.trans f))
termination_by (c.rest.length, 1)
decreasing_by
  · rcases Nat.lt_or_eq_of_le d.property with h | h
    · exact Prod.Lex.left _ _ h
    · rw [h]; exact Prod.Lex.right _ (by decide)
  · exact Prod.Lex.left _ _ (Nat.lt_of_lt_of_le e.property d.property)

/-- Reads the entries of an object and its closing brace. -/
def valueEntries (first : Bool) (c : Cursor) :
    Except TextFault (List (String × Json) × c.Beyond) := do
  match ← c.nextKey first with
  | .close d =>
    match d.val.next? with
    | some (_, e) => return ([], d.beyond e)
    | none => d.val.fail .endInObject
  | .key name d =>
    let e ← d.val.colon
    let (item, f) ← value e.val
    let (entries, g) ← valueEntries false f.val
    return ((name, item) :: entries, d.trans (e.trans (f.trans g)))
termination_by (c.rest.length, 1)
decreasing_by
  · exact Prod.Lex.left _ _ (Nat.lt_trans e.property d.property)
  · exact Prod.Lex.left _ _
      (Nat.lt_trans f.property (Nat.lt_trans e.property d.property))

end

/-- Nothing but blanks is left. -/
def finish (c : Cursor) : Except TextFault Unit :=
  let d := c.skipBlank
  match d.val.peek? with
  | none => .ok ()
  | some _ => d.val.failInside .trailingCharacters

end Cursor

/-- The value that a text denotes. -/
def read (text : String) : Except TextFault Json := do
  let (j, c) ← (Cursor.ofText text).value
  c.val.finish
  return j

end FeatureCatalog.Json
