import FeatureCatalog.Text.Composed
import FeatureCatalog.Url.Domain.Alphabet
import FeatureCatalog.Url.Domain.Direction
import FeatureCatalog.Url.Domain.Joining
import FeatureCatalog.Url.Punycode

/-! Domains: labels with points between them. A domain is sent in ASCII. Its characters are folded
and composed, and then each label that has other characters than ASCII is written in Punycode.
Labels that come in Punycode have to stand for something that could be written in this way. -/

namespace FeatureCatalog.Url.Domain

/-- A label as it is shown and as it is sent. -/
structure Label where
  shown : List Char
  sent : List Char

/-- What a label in Punycode starts with. -/
def codeStart : List Char := ['x', 'n', '-', '-']

/-- The length of the longest label that is read as Punycode, without its start. -/
def maxCodeLength : Nat := 2000

/-- The length of the longest label with other characters than ASCII, as it is shown. -/
def maxShownLength : Nat := 1000

/-- The text has only ASCII characters. -/
def isAscii (cs : List Char) : Bool := cs.all (·.toNat < 128)

/-- The label may be shown: its characters stand for themselves, it starts with no mark, its joiners
have an effect, and it is not too long. -/
def isShowable (label : List Char) : Bool :=
  label.all isPlain && !label.head?.any Text.isMark && joinersCount [] label &&
    (isAscii label || decide (label.length ≤ maxShownLength))

/-- The label that a text in Punycode stands for. It has to need Punycode, and to be composed. -/
def ofCode? (code : List Char) : Option (List Char) := do
  let shown ← Punycode.decode? code
  if code.length ≤ maxCodeLength ∧ !isAscii shown ∧ Text.composed shown = shown then some shown
  else none

/-- The label with a text that is folded and composed. -/
def label? (text : List Char) : Option Label := do
  if codeStart.isPrefixOf text then
    let shown ← ofCode? (text.drop codeStart.length)
    if isShowable shown then some ⟨shown, text⟩ else none
  else if !isShowable text then none
  else if isAscii text then some ⟨text, text⟩
  else some ⟨text, codeStart ++ Punycode.encode text⟩

/-- The character cannot occur in a domain, though it is ASCII. -/
def isForbidden (c : Char) : Bool :=
  c.toNat ≤ 0x20 || c.toNat == 0x7F || "%#/:<>?@[\\]^|".toList.contains c

/-- The labels of a domain as they are sent. -/
def sentLabels? (domain : List Char) : Option (List (List Char)) := do
  let folded ← fold? domain
  let labels ← (Text.pieces '.' (Text.composed folded)).mapM label?
  if runInOrder (labels.map (·.shown)) ∧ labels.all (fun l => !l.sent.any isForbidden) then
    some (labels.map (·.sent))
  else none

end FeatureCatalog.Url.Domain
