import FeatureCatalog.Identity
import FeatureCatalog.Json.Reader

/-! Reading of values of certain types straight from a JSON text. A value of another type is read to
its end before it is refused, unless it is a list or an object, which is refused where it begins. -/

namespace FeatureCatalog.Json.Cursor

variable {α : Type}

/-- Refuses the value that comes next, which is not what is wanted. -/
def refuseValue (c : Cursor) (wanted : Wanted) : Except TextFault α :=
  match c.next? with
  | none => c.fail .endInValue
  | some (x, d) =>
    match x with
    | '[' => c.refuse (.wrongType .list wanted)
    | '\x7b' => c.refuse (.wrongType .object wanted)
    | '\x22' => do
      let (s, e) ← d.val.string
      e.val.refuse (.wrongType (.text s) wanted)
    | 'n' => do
      let e ← wordAt d ['u', 'l', 'l']
      e.val.refuse (.wrongType .null wanted)
    | 't' => do
      let e ← wordAt d ['r', 'u', 'e']
      e.val.refuse (.wrongType (.bool true) wanted)
    | 'f' => do
      let e ← wordAt d ['a', 'l', 's', 'e']
      e.val.refuse (.wrongType (.bool false) wanted)
    | '-' => do
      let (n, e) ← d.val.number true
      e.val.refuse (.wrongType (.number n) wanted)
    | _ =>
      if x.isDigit then do
        let (n, e) ← c.number false
        e.val.refuse (.wrongType (.number n) wanted)
      else c.failInside .expectedValue

/-- Reads a string. -/
def text (c : Cursor) : Except TextFault (String × c.Beyond) :=
  let d := c.skipBlank
  match d.val.next? with
  | some ('\x22', e) => do
    let (s, f) ← e.val.string
    return (s, d.beyond (e.trans f))
  | _ => d.val.refuseValue .text

/-- Reads a truth value. -/
def boolean (c : Cursor) : Except TextFault (Bool × c.Beyond) :=
  let d := c.skipBlank
  match d.val.next? with
  | some ('t', e) => do return (true, d.beyond (← wordAt e ['r', 'u', 'e']))
  | some ('f', e) => do return (false, d.beyond (← wordAt e ['a', 'l', 's', 'e']))
  | _ => d.val.refuseValue .boolean

/-- Reads entries whose values are strings, and the closing brace. -/
def textEntries (first : Bool) (c : Cursor) :
    Except TextFault (List (String × String) × c.Beyond) := do
  match ← c.nextKey first with
  | .close d =>
    match d.val.next? with
    | some (_, e) => return ([], d.beyond e)
    | none => d.val.fail .endInObject
  | .key name d =>
    let e ← d.val.colon
    let (s, f) ← e.val.text
    let (entries, g) ← textEntries false f.val
    return ((name, s) :: entries, d.trans (e.trans (f.trans g)))
termination_by c.rest.length
decreasing_by
  exact Nat.lt_trans f.property (Nat.lt_trans e.property d.property)

/-- Reads an object whose values are strings. -/
def texts (c : Cursor) : Except TextFault (Dict String × c.Beyond) :=
  let d := c.skipBlank
  match d.val.next? with
  | some ('\x7b', e) => do
    let (entries, f) ← textEntries true e.val
    return (Dict.ofList entries, d.beyond (e.trans f))
  | _ => d.val.refuseValue .object

end FeatureCatalog.Json.Cursor
