/-! Kinds of characters: ASCII letters without regard to case, sets given as ranges of code points,
and white space. -/

namespace FeatureCatalog.Text

/-! ### Case of ASCII letters

All other characters are their own lower and upper case here, which is the rule for header names,
for keywords of settings and for URL schemes. -/

/-- The text with `A` to `Z` in lower case. -/
def asciiLower (s : String) : String := String.ofList (s.toList.map Char.toLower)

/-- The text with `a` to `z` in upper case. -/
def asciiUpper (s : String) : String := String.ofList (s.toList.map Char.toUpper)

/-- The texts differ at most in the case of ASCII letters. -/
def sameIgnoringCase (a b : String) : Bool := asciiLower a == asciiLower b

/-! ### Ranges of code points -/

/-- The number lies in one of the ranges, whose ends belong to them. -/
def inRanges (ranges : List (Nat × Nat)) (n : Nat) : Bool :=
  ranges.any fun r => decide (r.1 ≤ n) && decide (n ≤ r.2)

/-- The ranges of code points with the Unicode property `White_Space`. -/
def blankRanges : List (Nat × Nat) :=
  [ (0x09, 0x0D), (0x20, 0x20), (0x85, 0x85), (0xA0, 0xA0), (0x1680, 0x1680), (0x2000, 0x200A),
    (0x2028, 0x2029), (0x202F, 0x202F), (0x205F, 0x205F), (0x3000, 0x3000) ]

/-- The character is white space. -/
def isBlank (c : Char) : Bool :=
  inRanges blankRanges c.toNat

/-- The text has no character but white space. -/
def isBlankText (s : String) : Bool := s.toList.all isBlank

end FeatureCatalog.Text
