import FeatureCatalog.Text.Characters
import FeatureCatalog.Url.Host

/-! The origin of a URL: the scheme, the host and the number of the service at that host that its
resource is fetched from. -/

namespace FeatureCatalog.Url

/-- The origin of a URL. That of a file or of an unknown scheme has no name. -/
inductive Origin
  | unnamed
  | site (scheme : String) (host : Host) (service : Option Nat)
  deriving DecidableEq

namespace Origin

/-- The number of the service for a scheme that fetches from a host. A URL need not give it. -/
def defaultService? : String → Option Nat
  | "http" => some 80
  | "ws" => some 80
  | "https" => some 443
  | "wss" => some 443
  | "ftp" => some 21
  | _ => none

/-- The origin as it is written. -/
def text : Origin → String
  | .unnamed => "null"
  | .site scheme host none => scheme ++ "://" ++ host.text
  | .site scheme host (some n) => scheme ++ "://" ++ host.text ++ ":" ++ toString n

/-! ### Parts of a URL -/

/-- The characters of a URL that count: blanks and control characters at the ends, and tabs and ends
of lines anywhere, do not. -/
def significant (cs : List Char) : List Char :=
  let isOuter (c : Char) : Bool := c.toNat ≤ 0x20
  let trimmed := ((cs.dropWhile isOuter).reverse.dropWhile isOuter).reverse
  trimmed.filter fun c => c ≠ '\t' ∧ c ≠ '\n' ∧ c ≠ '\r'

/-- The scheme of a URL in lower case, and what follows its colon. -/
def cutScheme? (cs : List Char) : Option (String × List Char) :=
  let isNamed (c : Char) : Bool := c.isAlphanum || c == '+' || c == '-' || c == '.'
  match cs.head?.any Char.isAlpha, cs.dropWhile isNamed with
  | true, ':' :: rest => some (Text.asciiLower (String.ofList (cs.takeWhile isNamed)), rest)
  | _, _ => none

/-- The character ends the part of a URL that names the host. -/
def endsAuthority (c : Char) : Bool := c == '/' || c == '?' || c == '#'

/-- A slash of either kind. -/
def isSlash (c : Char) : Bool := c == '/' || c == '\\'

/-- The host and the service without the user before the last `@`. -/
def afterUser (authority : List Char) : List Char :=
  (authority.reverse.takeWhile (· ≠ '@')).reverse

/-- What stands before and after the first colon outside brackets. -/
def cutService (inBrackets : Bool) : List Char → List Char × Option (List Char)
  | [] => ([], none)
  | c :: rest =>
    if c = ':' ∧ !inBrackets then ([], some rest)
    else
      let (host, service) := cutService (c = '[' || (inBrackets && c ≠ ']')) rest
      (c :: host, service)

/-- The number of a service. No digits leave it open. -/
def service? (digits : List Char) : Option (Option Nat) :=
  if digits = [] then some none
  else
    match Text.ofNumeral? 10 digits with
    | some n => if n < 65536 then some (some n) else none
    | none => none

/-- A letter and a colon or bar, as before the paths of a drive. -/
def isDrive : List Char → Bool
  | [letter, mark] => letter.isAlpha && (mark == ':' || mark == '|')
  | _ => false

/-- A segment of a path that stands for the segment it is in. -/
def staysInPlace (segment : List Char) : Bool :=
  [".", "%2e"].contains (Text.asciiLower (String.ofList segment))

/-- A segment of a path that goes back one segment. -/
def goesBack (segment : List Char) : Bool :=
  ["..", ".%2e", "%2e.", "%2e%2e"].contains (Text.asciiLower (String.ofList segment))

/-- The path with these segments starts with a drive. `behind` has the segments before them, the
last one first. There is no way back from a drive. -/
def startsWithDrive (behind : List (List Char)) : List (List Char) → Bool
  | [] => false
  | segment :: rest =>
    if staysInPlace segment then startsWithDrive behind rest
    else if goesBack segment then
      startsWithDrive (if behind.head?.any isDrive then behind else behind.tail) rest
    else (behind.isEmpty && isDrive segment) || startsWithDrive (segment :: behind) rest

/-! ### Origins -/

/-- The origin of a URL that fetches from a host, of which the authority is given. -/
def ofAuthority? (scheme : String) (authority : List Char) : Option Origin := do
  let (host, digits) := cutService false (afterUser authority)
  let service ← service? (digits.getD [])
  let host ← Host.ofText? host
  return .site scheme host (service.filter fun n => some n ≠ defaultService? scheme)

/-- The origin of the URL of a file on a host, of which all after the two slashes is given. A file
on a drive has no host. -/
def ofFile? (cs : List Char) : Option Origin := do
  let place := (cs.takeWhile fun c => c ≠ '?' ∧ c ≠ '#').map fun c => if c = '\\' then '/' else c
  let (host, path) := Text.cut '/' place
  if isDrive host then none
  else if (← Host.ofText? host) = .domain "localhost" then none
  else if startsWithDrive [] (Text.pieces '/' path) then none
  else some .unnamed

/-- The origin of a URL of another scheme, of which all after the two slashes is given. -/
def ofOther? (cs : List Char) : Option Origin := do
  let (host, digits) := cutService false (afterUser (cs.takeWhile (!endsAuthority ·)))
  let _ ← service? ((digits.getD []).takeWhile (· ≠ '\\'))
  if Host.isAnyHost host then some .unnamed else none

/-- The origin of a URL that has a host. -/
def ofUrl? (url : String) : Option Origin := do
  let (scheme, rest) ← cutScheme? (significant url.toList)
  if (defaultService? scheme).isSome then
    let authority := (rest.dropWhile isSlash).takeWhile fun c => !(endsAuthority c || isSlash c)
    ofAuthority? scheme authority
  else
    match rest with
    | '/' :: '/' :: more => if scheme = "file" then ofFile? more else ofOther? more
    | a :: b :: more => if scheme = "file" ∧ isSlash a ∧ isSlash b then ofFile? more else none
    | _ => none

end Origin

end FeatureCatalog.Url
