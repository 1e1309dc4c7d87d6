/-! Finite binary floating-point numbers of 64 bits, as a sign, a significand of at most 53 bits and
a power of two. All arithmetic is on natural numbers: a quotient of two of them is rounded to the
nearest number of the format, a tie to the one with the even significand. -/

namespace FeatureCatalog

/-- The least significand of 53 bits. -/
def Binary64.leastFull : Nat := 0x10000000000000

/-- The pairs that denote each magnitude of the format once: a significand of 53 bits, or a smaller
one with the least exponent. -/
def Binary64.Canonical (significand : Nat) (exponent : Int) : Prop :=
  significand < 2 * leastFull ∧ -1074 ≤ exponent ∧ exponent ≤ 971 ∧
    (leastFull ≤ significand ∨ exponent = -1074)

instance (m : Nat) (e : Int) : Decidable (Binary64.Canonical m e) := by
  unfold Binary64.Canonical
  infer_instance

/-- The number `significand * 2 ^ exponent`, or its opposite if `negative`. -/
structure Binary64 where
  negative : Bool
  significand : Nat
  exponent : Int
  canonical : Binary64.Canonical significand exponent
  deriving DecidableEq

namespace Binary64

/-- Zero with the given sign. -/
def zero (negative : Bool) : Binary64 := ⟨negative, 0, -1074, by decide⟩

instance : Inhabited Binary64 := ⟨zero false⟩

/-- The number is zero of either sign. -/
def isZero (x : Binary64) : Bool := x.significand == 0

/-- Numeric equality: the two zeros are equal, and no other different numbers are. -/
def same (x y : Binary64) : Bool := x == y || (x.isZero && y.isZero)

/-- The same magnitude with the given sign. -/
def withSign (x : Binary64) (negative : Bool) : Binary64 := { x with negative }

/-- The number with these parts, if the exponent is in range and the parts are canonical. -/
def ofParts? (negative : Bool) (significand : Nat) (exponent : Int) : Option Binary64 :=
  if h : Canonical significand exponent then some ⟨negative, significand, exponent, h⟩ else none

/-- The integer nearest to `num / den`, of two the even one. -/
def nearest (num den : Nat) : Nat :=
  let q := num / den
  let r := num % den
  if 2 * r < den ∨ (2 * r = den ∧ q % 2 = 0) then q else q + 1

/-- The power of two with the given exponent. -/
def twoTo (n : Nat) : Nat := Nat.pow 2 n

/-- The power of ten with the given exponent. -/
def tenTo (n : Nat) : Nat := Nat.pow 10 n

/-- `num / den / 2 ^ e` as a fraction. -/
def scaled (num den : Nat) (e : Int) : Nat × Nat :=
  if 0 ≤ e then (num, den * twoTo e.toNat) else (num * twoTo (-e).toNat, den)

/-- The exponent at which `num / den` has a significand of 53 bits, but not less than the least
exponent. -/
def exponentOf (num den : Nat) : Int :=
  let e : Int := (num.log2 : Int) - den.log2 - 53
  let (n, d) := scaled num den e
  max (-1074) (if n / d < 2 * leastFull then e else e + 1)

/-- The number nearest to `num / den`, of two the one with the even significand; none if that lies
beyond the largest number. -/
def ofRatio? (negative : Bool) (num den : Nat) : Option Binary64 :=
  if num = 0 then some (zero negative)
  else
    let e := exponentOf num den
    let (n, d) := scaled num den e
    let m := nearest n d
    if m = 2 * leastFull then ofParts? negative leastFull (e + 1) else ofParts? negative m e

/-- The magnitude as a fraction. -/
def ratio (x : Binary64) : Nat × Nat :=
  if 0 ≤ x.exponent then (x.significand * twoTo x.exponent.toNat, 1)
  else (x.significand, twoTo (-x.exponent).toNat)

/-- The product of two magnitudes, rounded. -/
def mul? (x y : Binary64) : Option Binary64 :=
  let (a, b) := x.ratio
  let (c, d) := y.ratio
  ofRatio? false (a * c) (b * d)

/-- The quotient of two magnitudes, rounded. -/
def div? (x y : Binary64) : Option Binary64 :=
  let (a, b) := x.ratio
  let (c, d) := y.ratio
  ofRatio? false (a * d) (b * c)

/-- The number nearest to `10 ^ k`. -/
def powerOfTen? (k : Nat) : Option Binary64 := ofRatio? false (tenTo k) 1

/-- `x` divided `times` times by `10 ^ k`, rounded each time. A zero stays. -/
def divideOften? (k : Nat) : (times : Nat) → Binary64 → Option Binary64
  | 0, x => some x
  | times + 1, x =>
    if x.isZero then some x
    else do divideOften? k times (← x.div? (← powerOfTen? k))

/-- `x` times `10 ^ e`, by one multiplication or division by a power of ten up to `10 ^ 308`, and by
as many divisions by `10 ^ 308` before it as a lesser `e` needs. -/
def shiftDecimal? (x : Binary64) (e : Int) : Option Binary64 :=
  if 0 ≤ e then
    if x.isZero then some x
    else if e ≤ 308 then do (← powerOfTen? e.toNat).mul? x
    else none
  else do
    let times := ((-e).toNat - 1) / 308
    let y ← x.divideOften? 308 times
    if y.isZero then some y else y.div? (← powerOfTen? ((-e).toNat - 308 * times))

/-- The number read from a decimal significand and exponent: the significand is rounded first and
the result is rounded again when it is scaled. None if the number is out of range. -/
def ofDecimal? (negative : Bool) (significand : Nat) (exponent : Int) : Option Binary64 := do
  let x ← ofRatio? false significand 1
  let y ← x.shiftDecimal? exponent
  return y.withSign negative

end Binary64

end FeatureCatalog
