/-! Punycode: a label of a domain in ASCII alone. The ASCII characters of the label come first, then
a hyphen, and then numbers that say which other characters stand where, in the order of their code
points. A number is written with digits of base 36, the least one first; whether a digit is the last
one depends on its place and on a bias, which follows the numbers written so far. -/

namespace FeatureCatalog.Url.Punycode

/-- The digit with a value below 36. -/
def digit (n : Nat) : Char :=
  if n < 26 then Char.ofNat ('a'.toNat + n) else Char.ofNat ('0'.toNat + (n - 26))

/-- The value of a digit. -/
def digitValue? (c : Char) : Option Nat :=
  if 'a' ≤ c ∧ c ≤ 'z' then some (c.toNat - 'a'.toNat)
  else if '0' ≤ c ∧ c ≤ '9' then some (c.toNat - '0'.toNat + 26)
  else none

/-- A digit at place `k` that is below this is the last one of its number. Places are counted in
steps of 36. -/
def threshold (bias k : Nat) : Nat := min 26 (max 1 (k - bias))

theorem threshold_pos (bias k : Nat) : 0 < threshold bias k := by
  unfold threshold; omega

/-- The bias for numbers of about the size of `delta`, in places from `k` on. -/
def biasFrom (k delta : Nat) : Nat :=
  if h : 455 < delta then biasFrom (k + 36) (delta / 35) else k + 36 * delta / (delta + 38)
termination_by delta

/-- The bias after the number `delta`, when `count` characters have been placed. -/
def nextBias (isFirst : Bool) (delta count : Nat) : Nat :=
  let scaled := if isFirst then delta / 700 else delta / 2
  biasFrom 0 (scaled + scaled / count)

/-! ### Writing -/

/-- A number from place `k` on. -/
def writeNumber (bias k n : Nat) : List Char :=
  let t := threshold bias k
  if h : n < t then [digit n]
  else
    have : (n - t) / (36 - t) < n := by
      have := threshold_pos bias k
      exact Nat.lt_of_le_of_lt (Nat.div_le_self _ _) (by omega)
    digit (t + (n - t) % (36 - t)) :: writeNumber bias (k + 36) ((n - t) / (36 - t))
termination_by n

/-- The numbers written so far, and what the next one is counted from: `code` is the least code
point that may still follow, `gap` the number of places passed over, and `count` the number of
characters that have their place. -/
structure Writer where
  digits : List Char
  code : Nat
  gap : Nat
  bias : Nat
  count : Nat
  isFirst : Bool

namespace Writer

/-- Passes by a character of the label, or places it if it has the code point `m`. -/
def visit (m : Nat) (w : Writer) (c : Char) : Writer :=
  if c.toNat < m then { w with gap := w.gap + 1 }
  else if c.toNat = m then
    ⟨w.digits ++ writeNumber w.bias 36 w.gap, w.code, 0,
      nextBias w.isFirst w.gap (w.count + 1), w.count + 1, false⟩
  else w

/-- Places all characters of the label that have the code point `m`. -/
def place (label : List Char) (w : Writer) (m : Nat) : Writer :=
  let start := { w with gap := w.gap + (m - w.code) * (w.count + 1) }
  let done := label.foldl (visit m) start
  { done with code := m + 1, gap := done.gap + 1 }

end Writer

/-- The code points beyond ASCII in a label, each once and in order. -/
def codes (label : List Char) : List Nat :=
  (((label.map Char.toNat).filter (128 ≤ ·)).mergeSort (· ≤ ·)).eraseDups

/-- A label in Punycode. -/
def encode (label : List Char) : List Char :=
  let plain := label.filter (·.toNat < 128)
  let start : Writer := ⟨[], 128, 0, 72, plain.length, true⟩
  let done := (codes label).foldl (Writer.place label) start
  (if plain = [] then [] else plain ++ ['-']) ++ done.digits

/-! ### Reading -/

/-- Reads a number from place `k` on, where a digit weighs `weight`, and adds it to `sum`. -/
def readNumber? (bias k weight sum : Nat) : List Char → Option (Nat × List Char)
  | [] => none
  | c :: rest =>
    match digitValue? c with
    | none => none
    | some d =>
      let t := threshold bias k
      if d < t then some (sum + d * weight, rest)
      else readNumber? bias (k + 36) (weight * (36 - t)) (sum + d * weight) rest

/-- What follows a number is shorter than the text. -/
theorem length_of_readNumber? {bias k weight sum : Nat} {cs rest : List Char} {n : Nat}
    (h : readNumber? bias k weight sum cs = some (n, rest)) : rest.length < cs.length := by
  induction cs generalizing k weight sum with
  | nil => simp [readNumber?] at h
  | cons c more ih =>
    unfold readNumber? at h
    cases hd : digitValue? c with
    | none => simp [hd] at h
    | some d =>
      simp only [hd] at h
      split at h
      · cases h; simp
      · have := ih h
        simp; omega

/-- Places the characters that the numbers of `digits` describe in `label`. The next one has a code
point of at least `code`, and among those with that code point it comes from `place` on. -/
def placeAll? (bias code place : Nat) (isFirst : Bool) (label digits : List Char) :
    Option (List Char) :=
  match hn : readNumber? bias 36 1 0 digits with
  | none => if digits = [] then some label else none
  | some (n, rest) =>
    let count := label.length + 1
    let position := (place + n) % count
    let next := code + (place + n) / count
    if next.isValidChar then
      have := length_of_readNumber? hn
      placeAll? (nextBias isFirst n count) next (position + 1) false
        (label.insertIdx position (Char.ofNat next)) rest
    else none
termination_by digits.length

/-- What stands before and after the last hyphen. Without a hyphen that something precedes, all of
it stands after. -/
def splitAtHyphen (cs : List Char) : List Char × List Char :=
  let after := (cs.reverse.takeWhile (· ≠ '-')).reverse
  let before := cs.take (cs.length - after.length - 1)
  if before = [] then ([], cs) else (before, after)

/-- The label that a text in Punycode stands for. -/
def decode? (cs : List Char) : Option (List Char) :=
  let (plain, digits) := splitAtHyphen cs
  if plain.all (·.toNat < 128) then placeAll? 72 128 0 true plain digits else none

end FeatureCatalog.Url.Punycode
