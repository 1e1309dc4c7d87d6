import FeatureCatalog.Binary64

/-! The shortest decimal form of a floating-point number: the fewest digits that read back as that
number, and of these the digits nearest to it. -/

namespace FeatureCatalog.Binary64

/-- The number of decimal digits of `n`. -/
def digitCount (n : Nat) : Nat := (Nat.toDigits 10 n).length

/-- The exponent `k` with `10 ^ k ≤ num / den < 10 ^ (k + 1)`, for a positive fraction. -/
def decimalExponent (num den : Nat) : Int :=
  if den ≤ num then (digitCount (num / den) : Int) - 1
  else -(digitCount ((den + num - 1) / num - 1) : Int)

/-- The numbers that read as a given one lie between `low` and `high`, all over `den`, and `value`
is the number itself; the ends belong to them if `closed`. -/
structure Interval where
  low : Nat
  value : Nat
  high : Nat
  den : Nat
  closed : Bool

/-- The interval of a number. Below a power of two the neighbours are half as far apart. -/
def interval (x : Binary64) : Interval :=
  let m := 4 * x.significand
  let low := if x.significand = leastFull ∧ -1074 < x.exponent then m - 1 else m - 2
  let e := x.exponent - 2
  let up := if 0 ≤ e then twoTo e.toNat else 1
  let den := if 0 ≤ e then 1 else twoTo (-e).toNat
  ⟨low * up, m * up, (m + 2) * up, den, x.significand % 2 == 0⟩

/-- `num / den` lies in the interval. -/
def Interval.contains (i : Interval) (num den : Nat) : Bool :=
  let c := num * i.den
  (decide (i.low * den < c) || (i.closed && i.low * den == c)) &&
    (decide (c < i.high * den) || (i.closed && c == i.high * den))

/-- The multiple of `10 ^ g` in the interval that is nearest to its value, of two the even one. -/
def Interval.onGrid? (i : Interval) (g : Int) : Option Nat :=
  let up := if 0 ≤ g then tenTo g.toNat else 1
  let den := if 0 ≤ g then 1 else tenTo (-g).toNat
  let a := i.value * den / (i.den * up)
  let below := i.contains (a * up) den
  let above := i.contains ((a + 1) * up) den
  let twice := 2 * (i.value * den)
  let middle := (2 * a + 1) * up * i.den
  match below, above with
  | false, false => none
  | true, false => some a
  | false, true => some (a + 1)
  | true, true =>
    if twice < middle then some a
    else if middle < twice then some (a + 1)
    else if a % 2 = 0 then some a
    else some (a + 1)

/-- The digits and the power of ten of the first grid, from one digit to seventeen, that meets the
interval. -/
def Interval.shortest (i : Interval) : Nat × Int :=
  let k := decimalExponent i.value i.den
  let found := (List.range 17).findSome? fun (n : Nat) =>
    (i.onGrid? (k - n)).map fun digits => (digits, k - n)
  found.getD (0, 0)

/-- The significant digits of a number without trailing zeros, and the exponent of its first
digit. -/
def shortest (x : Binary64) : List Char × Int :=
  if x.isZero then (['0'], 0)
  else
    let (n, g) := x.interval.shortest
    let digits := Nat.toDigits 10 n
    ((digits.reverse.dropWhile (· == '0')).reverse, g + digits.length - 1)

/-- The number in plain notation with at least one decimal place if the exponent of its first digit
is from -5 to 15, and otherwise with one digit before the point and a signed exponent. -/
def text (x : Binary64) : String :=
  let (digits, e) := x.shortest
  let zeros (n : Int) : List Char := List.replicate n.toNat '0'
  let body :=
    if e < -5 ∨ 16 ≤ e then
      let fraction := match digits.drop 1 with
        | [] => []
        | rest => '.' :: rest
      digits.take 1 ++ fraction ++ ['e', if e < 0 then '-' else '+'] ++ Nat.toDigits 10 e.natAbs
    else if e < 0 then '0' :: '.' :: zeros (-e - 1) ++ digits
    else
      let whole := digits.take (e.toNat + 1)
      let fraction := digits.drop (e.toNat + 1)
      whole ++ zeros (e + 1 - whole.length) ++ ['.'] ++ (if fraction = [] then ['0'] else fraction)
  String.ofList (if x.negative then '-' :: body else body)

end FeatureCatalog.Binary64
