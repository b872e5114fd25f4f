import FeatureFlags.Net.Address
import FeatureFlags.Net.Domain
import FeatureFlags.Net.Percent
import FeatureFlags.Text.Case
import FeatureFlags.Text.Numeral
import FeatureFlags.Text.Quoted

/-!
# `FeatureFlags.Net.Url` — addresses of resources

A text is first split into parts by the characters that stand between them.  Then each part is
brought into the form in which it is sent: the scheme and the host in small letters, a host outside
ASCII in Punycode, a port only if it is not the usual one of its scheme, the path without dot
segments, and every character that a part does not allow percent-encoded.

## Contents

1. Errors
2. Parts
3. The form of each part
4. Resources
-/

namespace FeatureFlags

/-! ## Errors -/

/-- What is wrong with the text of a resource. -/
inductive UrlError where
  | tooLong
  | partTooLong (part : String)
  | unprintable (c : Char) (position : Nat)
  | unprintableIn (part : String) (c : Char) (position : Nat)
  | port (text : String)
  /-- The host looks like an address of four numbers and is none. -/
  | fourAddress (host : String)
  /-- The host stands in brackets and is no address of eight numbers. -/
  | eightAddress (host : String)
  | domain (host : String)
  | pathAfterHost
  | pathWithTwoSlashes
  | pathWithColon
  deriving DecidableEq

namespace UrlError

/-- The wording of an error. -/
def message : UrlError → String
  | .tooLong => "URL too long"
  | .partTooLong part => "URL component '" ++ part ++ "' too long"
  | .unprintable c position =>
    "Invalid non-printable ASCII character in URL, " ++ Text.quoted (String.singleton c) ++
      " at position " ++ toString position ++ "."
  | .unprintableIn part c position =>
    "Invalid non-printable ASCII character in URL " ++ part ++ " component, " ++
      Text.quoted (String.singleton c) ++ " at position " ++ toString position ++ "."
  | .port text => "Invalid port: " ++ Text.quoted text
  | .fourAddress host => "Invalid IPv4 address: " ++ Text.quoted host
  | .eightAddress host => "Invalid IPv6 address: " ++ Text.quoted host
  | .domain host => "Invalid IDNA hostname: " ++ Text.quoted host
  | .pathAfterHost => "For absolute URLs, path must be empty or begin with '/'"
  | .pathWithTwoSlashes => "Relative URLs cannot have a path starting with '//'"
  | .pathWithColon => "Relative URLs cannot have a path starting with ':'"

end UrlError

namespace Url

/-! ## Parts -/

/-- The parts of a text, as they are written. -/
structure Parts where
  scheme : List Char := []
  authority : List Char := []
  path : List Char := []
  query : Option (List Char) := none
  fragment : Option (List Char) := none

namespace Parts

/-- Splits the scheme off, which ends with a colon. -/
def splitScheme (cs : List Char) : List Char × List Char :=
  let isPart (c : Char) : Bool := c.isAlphanum || c == '+' || c == '.' || c == '-'
  let name := if cs.head?.any Char.isAlpha then cs.takeWhile isPart else []
  match cs.drop name.length with
  | ':' :: rest => (name, rest)
  | _ => ([], cs)

/-- Splits the authority off, which begins with two slashes. -/
def splitAuthority : List Char → List Char × List Char
  | '/' :: '/' :: rest => rest.span fun c => c ≠ '/' ∧ c ≠ '?' ∧ c ≠ '#'
  | cs => ([], cs)

/-- Splits off what begins with the given character. -/
def splitTail (mark : Char) (cs : List Char) : List Char × Option (List Char) :=
  match cs.span (· ≠ mark) with
  | (before, []) => (before, none)
  | (before, _ :: after) => (before, some after)

/-- The parts of a text. -/
def ofText (cs : List Char) : Parts :=
  let (scheme, cs) := splitScheme cs
  let (authority, cs) := splitAuthority cs
  let (cs, fragment) := splitTail '#' cs
  let (path, query) := splitTail '?' cs
  { scheme, authority, path, query, fragment }

/-- Splits an authority into what stands before the last at-sign, the host, and the port. -/
def splitHost (cs : List Char) : List Char × List Char × List Char :=
  let last := cs.reverse.takeWhile (· ≠ '@')
  let userinfo := (cs.take (cs.length - last.length)).dropLast
  let rest := last.reverse
  let host :=
    if rest.head? == some '[' && rest.contains ']' then
      rest.take (rest.length - (rest.reverse.takeWhile (· ≠ ']')).length)
    else rest.takeWhile (· ≠ ':')
  match rest.drop host.length with
  | ':' :: port => (userinfo, host, port)
  | port => (userinfo, host, port)

end Parts

/-! ## The form of each part -/

/-- The characters of printable ASCII, except the given ones. -/
def printableExcept (excluded : String) (c : Char) : Bool :=
  0x20 < c.toNat && c.toNat < 0x7F && !excluded.toList.contains c

/-- The characters kept in paths. -/
def keptInPath : Char → Bool := printableExcept "\"#<>?\x60\x7b\x7d"

/-- The characters kept in queries. -/
def keptInQuery : Char → Bool := printableExcept "\"#<>"

/-- The characters kept in fragments. -/
def keptInFragment : Char → Bool := printableExcept "\"<>\x60"

/-- The characters kept before an at-sign. -/
def keptInUserinfo : Char → Bool := printableExcept "\"#<>?\x60\x7b\x7d/;=@[\\]^|"

/-- The characters kept in hosts. -/
def keptInHost (c : Char) : Bool :=
  Percent.isUnreserved c || "!$&'()*+,;=\"\x60\x7b\x7d%|\\".toList.contains c

/-- The form of a host; an address in brackets loses them. -/
def hostForm (cs : List Char) : Except UrlError (List Char) :=
  if cs.isEmpty then .ok []
  else if Address.looksLikeFour cs then
    if Address.isFour cs then .ok cs else .error (.fourAddress (String.ofList cs))
  else if cs.head? == some '[' && cs.getLast? == some ']' then
    let inner := (cs.drop 1).dropLast
    if Address.isEight inner then .ok inner else .error (.eightAddress (String.ofList cs))
  else if cs.all fun c => c.toNat < 0x80 then .ok (Percent.quote keptInHost (cs.map Char.toLower))
  else
    match Domain.encode (Text.lowerCase cs) with
    | .ok host => .ok host
    | .error _ => .error (.domain (String.ofList cs))

/-- The usual port of a scheme. -/
def usualPort? (scheme : String) : Option Int :=
  [("ftp", 21), ("http", 80), ("https", 443), ("ws", 80), ("wss", 443)].lookup scheme

/-- The form of a port, none for the usual one. -/
def portForm (scheme : String) (cs : List Char) : Except UrlError (Option Int) :=
  if cs.isEmpty then .ok none
  else
    match Numeral.readInteger 10 cs with
    | .ok n => .ok (if usualPort? scheme = some n then none else some n)
    | .error _ => .error (.port (String.ofList cs))

/-- Adds a segment to a path: one dot is left out, and two dots take the segment before them
along. -/
def addSegment (kept : List (List Char)) (segment : List Char) : List (List Char) :=
  if segment = ['.'] then kept
  else if segment = ['.', '.'] then if kept = [[]] then kept else kept.dropLast
  else kept ++ [segment]

/-- Takes the segments that are dots out of a path. -/
def withoutDots (cs : List Char) : List Char :=
  ['/'].intercalate ((cs.splitOn '/').foldl addSegment [])

end Url

/-! ## Resources -/

/-- A resource, each part in the form in which it is sent. -/
structure Url where
  scheme : String
  userinfo : String
  host : String
  port : Option Int
  path : String
  query : Option String
  fragment : Option String
  deriving DecidableEq

namespace Url

/-- How many characters a text and each of its parts may have. -/
def maxLength : Nat := 65536

/-- Checks that a path can follow the parts before it. -/
def checkPath (hasScheme hasAuthority : Bool) (path : List Char) : Except UrlError Unit :=
  if hasAuthority then
    if path.isEmpty || path.head? == some '/' then .ok () else .error .pathAfterHost
  else if hasScheme then .ok ()
  else if path.take 2 == ['/', '/'] then .error .pathWithTwoSlashes
  else if path.head? == some ':' then .error .pathWithColon
  else .ok ()

/-- Brings parts into their form.  A host that is given takes the place of the one in the
authority. -/
def ofParts (p : Parts) (otherHost : Option (List Char) := none) : Except UrlError Url := do
  let (userinfo, ownHost, port) := Parts.splitHost p.authority
  let host := otherHost.getD ownHost
  let scheme := String.ofList (p.scheme.map Char.toLower)
  let userinfo := Percent.quote keptInUserinfo userinfo
  let host ← hostForm host
  let port ← portForm scheme port
  let hasAuthority := !userinfo.isEmpty || !host.isEmpty || port.isSome
  checkPath (!p.scheme.isEmpty) hasAuthority p.path
  let path := if !p.scheme.isEmpty || hasAuthority then withoutDots p.path else p.path
  return {
    scheme
    userinfo := String.ofList userinfo
    host := String.ofList host
    port
    path := String.ofList (Percent.quote keptInPath path)
    query := p.query.map fun q => String.ofList (Percent.quote keptInQuery q)
    fragment := p.fragment.map fun f => String.ofList (Percent.quote keptInFragment f) }

/-- Whether a character is ASCII and not printable. -/
def isControl (c : Char) : Bool := c.toNat < 0x20 || c.toNat = 0x7F

/-- The first character that is ASCII and not printable, and its place. -/
def control? (cs : List Char) : Option (Char × Nat) :=
  (cs.find? isControl).map fun c => (c, (cs.findIdx? isControl).getD 0)

/-- Reads a resource. -/
def parse (s : String) : Except UrlError Url :=
  let cs := s.toList
  if maxLength < cs.length then .error .tooLong
  else
    match control? cs with
    | some (c, i) => .error (.unprintable c i)
    | none => ofParts (.ofText cs)

/-- The authority of a resource; an address of eight numbers stands in brackets. -/
def authority (u : Url) : String :=
  (if u.userinfo.isEmpty then "" else u.userinfo ++ "@") ++
    (if u.host.contains ':' then "[" ++ u.host ++ "]" else u.host) ++
    (match u.port with | some n => ":" ++ toString n | none => "")

/-- The text of a resource. -/
def text (u : Url) : String :=
  (if u.scheme.isEmpty then "" else u.scheme ++ ":") ++
    (if u.authority.isEmpty then "" else "//" ++ u.authority) ++ u.path ++
    (match u.query with | some q => "?" ++ q | none => "") ++
    (match u.fragment with | some f => "#" ++ f | none => "")

/-- The parts of a resource. -/
def parts (u : Url) : Parts where
  scheme := u.scheme.toList
  authority := u.authority.toList
  path := u.path.toList
  query := u.query.map String.toList
  fragment := u.fragment.map String.toList

/-- Checks a part. -/
def checkPart (part : String) (cs : List Char) : Except UrlError Unit :=
  if maxLength < cs.length then .error (.partTooLong part)
  else
    match control? cs with
    | some (c, i) => .error (.unprintableIn part c i)
    | none => .ok ()

/-- The resource with changed parts, and with another host if one is given. -/
def reform (p : Parts) (otherHost : Option (List Char) := none) : Except UrlError Url := do
  checkPart "scheme" p.scheme
  checkPart "authority" p.authority
  checkPart "path" p.path
  checkPart "query" (p.query.getD [])
  checkPart "fragment" (p.fragment.getD [])
  checkPart "host" (otherHost.getD [])
  ofParts p otherHost

/-- The path and the query together, as they are asked for; an empty path is a slash. -/
def target (u : Url) : String :=
  (if u.path.isEmpty then "/" else u.path) ++
    (match u.query with | some q => "?" ++ q | none => "")

/-- Replaces the path and the query. -/
def withTarget (u : Url) (target : String) : Except UrlError Url :=
  let (path, query) := Parts.splitTail '?' target.toList
  reform { u.parts with path, query }

/-- Replaces the query. -/
def withQuery (u : Url) (query : List Char) : Except UrlError Url :=
  reform { u.parts with query := some query }

/-- Replaces the host; an address of eight numbers is put in brackets. -/
def withHost (u : Url) (host : List Char) : Except UrlError Url :=
  reform u.parts (some (if host.contains ':' then '[' :: (host ++ [']']) else host))

/-- Replaces the fragment. -/
def withFragment (u : Url) (fragment : List Char) : Except UrlError Url :=
  reform { u.parts with fragment := some fragment }

/-- The fragment, in which escapes stand for what they mean; it is empty if there is none. -/
def plainFragment (u : Url) : String :=
  Utf8.decodeLossy (Percent.decode ((u.fragment.getD "").toList))

/-- The host; what stands in Punycode is read. -/
def plainHost (u : Url) : Except Domain.Fault (List Char) :=
  let cs := u.host.toList
  if Domain.sign.isPrefixOf cs then Domain.decode cs else .ok cs

/-- Makes the target end with a slash. -/
def withSlash (u : Url) : Except UrlError Url :=
  if u.target.toList.getLast? == some '/' then .ok u else u.withTarget (u.target ++ "/")

end Url

end FeatureFlags
