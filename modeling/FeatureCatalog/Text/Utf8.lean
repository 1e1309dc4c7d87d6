/-! UTF-8, read leniently: where the bytes are no UTF-8, each longest start of a character that is
not completed stands for one replacement character. -/

namespace FeatureCatalog.Text

/-- The bytes of a text. -/
def utf8 (cs : List Char) : List UInt8 := cs.flatMap String.utf8EncodeChar

/-- The character that stands for bytes that are no UTF-8. -/
def replacement : Char := '\ufffd'

/-- The six low bits of a byte that continues a character. -/
def continuation? (b : UInt8) : Option Nat :=
  if 0x80 ≤ b.toNat ∧ b.toNat ≤ 0xBF then some (b.toNat - 0x80) else none

/-- The least and the greatest second byte after `b`, the first byte of a character of three or four
bytes: they leave out surrogates, numbers beyond Unicode, and forms longer than needed. -/
def secondBounds (b : UInt8) : Nat × Nat :=
  if b = 0xE0 then (0xA0, 0xBF)
  else if b = 0xED then (0x80, 0x9F)
  else if b = 0xF0 then (0x90, 0xBF)
  else if b = 0xF4 then (0x80, 0x8F)
  else (0x80, 0xBF)

/-- `second` may follow `first` in a character of three or four bytes. -/
def isSecond (first second : UInt8) : Bool :=
  let (low, high) := secondBounds first
  decide (low ≤ second.toNat) && decide (second.toNat ≤ high)

/-- The text that the bytes stand for. -/
def ofUtf8 : List UInt8 → List Char
  | [] => []
  | a :: rest =>
    let n := a.toNat
    if n < 0x80 then Char.ofNat n :: ofUtf8 rest
    else if 0xC2 ≤ n ∧ n ≤ 0xDF then
      match rest with
      | b :: rest' =>
        match continuation? b with
        | some x => Char.ofNat ((n - 0xC0) * 64 + x) :: ofUtf8 rest'
        | none => replacement :: ofUtf8 (b :: rest')
      | [] => [replacement]
    else if 0xE0 ≤ n ∧ n ≤ 0xEF then
      match rest with
      | b :: rest' =>
        if isSecond a b then
          match rest' with
          | c :: rest'' =>
            match continuation? c with
            | some y =>
              Char.ofNat ((n - 0xE0) * 4096 + (b.toNat - 0x80) * 64 + y) :: ofUtf8 rest''
            | none => replacement :: ofUtf8 (c :: rest'')
          | [] => [replacement]
        else replacement :: ofUtf8 (b :: rest')
      | [] => [replacement]
    else if 0xF0 ≤ n ∧ n ≤ 0xF4 then
      match rest with
      | b :: rest' =>
        if isSecond a b then
          match rest' with
          | c :: rest'' =>
            match continuation? c with
            | some y =>
              match rest'' with
              | d :: rest''' =>
                match continuation? d with
                | some z =>
                  Char.ofNat
                    ((n - 0xF0) * 262144 + (b.toNat - 0x80) * 4096 + y * 64 + z) ::
                      ofUtf8 rest'''
                | none => replacement :: ofUtf8 (d :: rest''')
              | [] => [replacement]
            | none => replacement :: ofUtf8 (c :: rest'')
          | [] => [replacement]
        else replacement :: ofUtf8 (b :: rest')
      | [] => [replacement]
    else replacement :: ofUtf8 rest

end FeatureCatalog.Text
