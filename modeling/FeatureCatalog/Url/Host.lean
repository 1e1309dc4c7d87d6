import FeatureCatalog.Url.Domain
import FeatureCatalog.Url.Ipv4
import FeatureCatalog.Url.Ipv6
import FeatureCatalog.Url.Percent

/-! Hosts of URLs: domains and IP addresses. -/

namespace FeatureCatalog.Url

/-- The host of a URL. -/
inductive Host
  | domain (name : String)
  | ipv4 (address : Ipv4)
  | ipv6 (address : Ipv6)
  deriving DecidableEq

namespace Host

/-- The address in brackets. -/
def bracketed? (afterBracket : List Char) : Option Ipv6 :=
  if afterBracket.getLast? = some ']' then Ipv6.ofText? afterBracket.dropLast else none

/-- The host that a text denotes. Bytes may be written with `%`. A name whose last label is a number
is an address. -/
def ofText? : List Char → Option Host
  | '[' :: rest => (bracketed? rest).map .ipv6
  | cs => do
    let labels ← Domain.sentLabels? (Text.ofUtf8 (unescapeBytes (Text.utf8 cs)))
    if labels = [[]] then none
    else if Ipv4.mustBe labels then (Ipv4.ofLabels? labels).map .ipv4
    else some (.domain (String.ofList (['.'].intercalate labels)))

/-- A host in the URLs of other schemes, which is not looked into unless it is an IPv6 address. -/
def isAnyHost : List Char → Bool
  | [] => false
  | '[' :: rest => (bracketed? rest).isSome
  | cs => cs.all fun c => !"\x00\t\n\r #/:<>?@[\\]^|".toList.contains c

/-- The host as it is written. -/
def text : Host → String
  | .domain name => name
  | .ipv4 address => String.ofList address.text
  | .ipv6 address => String.ofList ('[' :: address.text ++ [']'])

end Host

end FeatureCatalog.Url
