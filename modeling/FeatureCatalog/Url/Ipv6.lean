import FeatureCatalog.Text.Numeral

/-! IPv6 addresses as hosts: eight groups of hexadecimal digits with colons between them. Once in an
address, `::` stands for groups of zeros, and the last two groups may be written as an IPv4
address. -/

namespace FeatureCatalog.Url

open Text

/-- An IPv6 address. -/
structure Ipv6 where
  groups : List UInt16
  length_eq : groups.length = 8
  deriving DecidableEq

namespace Ipv6

/-! ### Reading -/

/-- A group of one to four hexadecimal digits. -/
def group? (cs : List Char) : Option UInt16 :=
  if cs = [] ∨ 4 < cs.length then none else (ofNumeral? 16 cs).map UInt16.ofNat

/-- A byte in decimal, without zeros before it. -/
def byte? : List Char → Option Nat
  | [] => none
  | ['0'] => some 0
  | '0' :: _ => none
  | cs => (ofNumeral? 10 cs).filter (· < 256)

/-- The two groups that an IPv4 address stands for. -/
def dotted? (cs : List Char) : Option (List UInt16) :=
  match (pieces '.' cs).mapM byte? with
  | some [a, b, c, d] => some [UInt16.ofNat (a * 256 + b), UInt16.ofNat (c * 256 + d)]
  | _ => none

/-- The groups at the end of an address. The last piece may be an IPv4 address. -/
def lastGroups? : List (List Char) → Option (List UInt16)
  | [] => some []
  | [piece] => ((group? piece).map ([·])).or (dotted? piece)
  | piece :: more => do return (← group? piece) :: (← lastGroups? more)

/-- The pieces between single colons. Nothing has no pieces. -/
def colonPieces (cs : List Char) : List (List Char) :=
  if cs = [] then [] else pieces ':' cs

/-- What stands before and after the first `::`. -/
def cutGap? : List Char → Option (List Char × List Char)
  | ':' :: ':' :: rest => some ([], rest)
  | c :: rest => (cutGap? rest).map fun (before, after) => (c :: before, after)
  | [] => none

/-- The address that a text denotes. -/
def ofText? (cs : List Char) : Option Ipv6 :=
  match cutGap? cs with
  | none => do
    let groups ← lastGroups? (colonPieces cs)
    if h : groups.length = 8 then some ⟨groups, h⟩ else none
  | some (before, after) => do
    let first ← (colonPieces before).mapM group?
    let last ← lastGroups? (colonPieces after)
    if h : first.length + last.length < 8 then
      some ⟨first ++ List.replicate (8 - (first.length + last.length)) 0 ++ last,
        by simp; omega⟩
    else none

/-! ### Writing -/

/-- Where the first of the longest runs of zeros starts, and its length. -/
def longestZeros : List UInt16 → Nat × Nat
  | [] => (0, 0)
  | g :: rest =>
    let here := ((g :: rest).takeWhile (· = 0)).length
    let (start, length) := longestZeros rest
    if length ≤ here then (0, here) else (start + 1, length)

/-- Groups in hexadecimal with colons between them. -/
def groupsText (groups : List UInt16) : List Char :=
  [':'].intercalate (groups.map fun g => Nat.toDigits 16 g.toNat)

/-- The address, with `::` for the first of the longest runs of zeros if that has two groups or
more. -/
def text (a : Ipv6) : List Char :=
  let (start, length) := longestZeros a.groups
  if length < 2 then groupsText a.groups
  else groupsText (a.groups.take start) ++ ':' :: ':' :: groupsText (a.groups.drop (start + length))

end Ipv6

end FeatureCatalog.Url
