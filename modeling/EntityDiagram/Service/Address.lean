import EntityDiagram.Json.Reader
import EntityDiagram.Service.Host
import EntityDiagram.Text.Blank
import EntityDiagram.Text.Digit
import EntityDiagram.Text.Scan

/-!
Addresses of requests. An address has a scheme, an authority, a path, a query and a fragment; all
but the path may be left out. Only the path matters to the service. Its segments `.` and `..` are
resolved before escaped octets are decoded, and these are decoded twice: once by the sender and
once by the receiver.
-/
namespace EntityDiagram.Service

inductive AddressError where
  | tooLong
  | unprintable (c : Char) (position : Nat)
  | badHost (e : HostError)
  | badPort (port : String)
  | leadingSlashes
  | leadingColon
  | partTooLong (part : String)
  | unknownScheme (scheme : String)
  deriving DecidableEq, Repr

def AddressError.message : AddressError → String
  | tooLong => "URL too long"
  | unprintable c position =>
    let shown := Text.quoted (String.singleton c)
    s!"Invalid non-printable ASCII character in URL, {shown} at position {position}."
  | badHost e => e.message
  | badPort port =>
    let shown := Text.quoted port
    s!"Invalid port: {shown}"
  | leadingSlashes => "Relative URLs cannot have a path starting with '//'"
  | leadingColon => "Relative URLs cannot have a path starting with ':'"
  | partTooLong part => s!"URL component '{part}' too long"
  | unknownScheme scheme => Text.quoted scheme

namespace Address

def lengthLimit : Nat := 65536

def isControl (c : Char) : Bool := c.toNat < 0x20 || c.toNat = 0x7F

def isSchemeChar (c : Char) : Bool := c.isAlphanum || c = '+' || c = '.' || c = '-'

def splitScheme (cs : List Char) : List Char × List Char :=
  let name := if (cs.head?.any Char.isAlpha) then cs.takeWhile isSchemeChar else []
  match cs.drop name.length with
  | ':' :: rest => (name, rest)
  | _ => ([], cs)

def endsAuthority (c : Char) : Bool := c = '/' || c = '?' || c = '#'

def endsPath (c : Char) : Bool := c = '?' || c = '#'

def splitAuthority : List Char → List Char × List Char
  | '/' :: '/' :: rest => (rest.takeWhile (!endsAuthority ·), rest.dropWhile (!endsAuthority ·))
  | cs => ([], cs)

structure Authority where
  user : List Char
  host : List Char
  port : List Char

/-- The parts of an authority. Whatever stands before the last `@` names a user, and a host may stand
in brackets. -/
def authorityParts (authority : List Char) : Authority :=
  let cs := (authority.reverse.takeWhile (· ≠ '@')).reverse
  let bracketed := (cs.reverse.dropWhile (· ≠ ']')).reverse
  let host := if cs.head? = some '[' && !bracketed.isEmpty then bracketed
    else cs.takeWhile (· ≠ ':')
  let rest := cs.drop host.length
  { user := authority.take (authority.length - cs.length - 1)
    host
    port := if rest.head? = some ':' then rest.drop 1 else rest }

def Authority.isEmpty (a : Authority) : Bool :=
  a.user.isEmpty && a.host.isEmpty && a.port.isEmpty

/-- A port: a number in the digits of any script, with or without a sign, blanks around it and single
underscores inside of it. -/
def isPort (cs : List Char) : Bool :=
  let cs := Text.trimChars cs
  let unsigned := if cs.head? = some '+' || cs.head? = some '-' then cs.drop 1 else cs
  let groups := Text.splitChars '_' unsigned
  groups.all (fun group => !group.isEmpty && group.all fun c => (Text.decimalDigit? c).isSome)
    && groups.flatten.length ≤ Json.digitLimit

/-- Keeps the segments of a path and drops the last one kept for every `..`. The empty segment
before the first slash is never dropped. -/
def resolveSegments (kept : List (List Char)) : List (List Char) → List (List Char)
  | [] => kept.reverse
  | ['.'] :: rest => resolveSegments kept rest
  | ['.', '.'] :: rest => resolveSegments (if kept = [[]] then kept else kept.drop 1) rest
  | segment :: rest => resolveSegments (segment :: kept) rest

def resolveDots (path : List Char) : List Char :=
  List.intercalate ['/'] (resolveSegments [] (Text.splitChars '/' path))

/-- The character of an escaped octet. Octets beyond the ASCII range are parts of characters that
stand in no path of the service. -/
def octetChar (n : Nat) : Char := if n < 0x80 then Char.ofNat n else '\ufffd'

def unescape : List Char → List Char
  | '%' :: a :: b :: rest =>
    match Json.hexDigit? a, Json.hexDigit? b with
    | some high, some low => octetChar (16 * high + low) :: unescape rest
    | _, _ => '%' :: unescape (a :: b :: rest)
  | c :: rest => c :: unescape rest
  | [] => []
  termination_by cs => cs.length

def schemeName (scheme : List Char) : String := String.ofList (scheme.map Char.toLower)

def schemes : List String := ["http", "https", "ws", "wss"]

def isUnsafe (c : Char) : Bool := c = ' ' || c = '\x22' || c = '#' || c = '<' || c = '>'

def isUnsafeInPath (c : Char) : Bool :=
  isUnsafe c || c = '?' || c = '\x60' || c = '\x7b' || c = '\x7d'

def escapedLength (isEscaped : Char → Bool) (cs : List Char) : Nat :=
  cs.foldl (fun n c => n + if isEscaped c || 0x80 ≤ c.toNat then 3 * c.utf8Size else 1) 0

structure Parts where
  scheme : List Char
  authority : Authority
  path : List Char
  query : List Char

def parts (cs : List Char) : Parts :=
  let (scheme, rest) := splitScheme cs
  let (authority, rest) := splitAuthority rest
  let afterPath := rest.dropWhile (!endsPath ·)
  { scheme
    authority := authorityParts authority
    path := rest.takeWhile (!endsPath ·)
    query := if afterPath.head? = some '?' then (afterPath.drop 1).takeWhile (· ≠ '#') else [] }

namespace Parts

def isBare (p : Parts) : Bool := p.scheme.isEmpty && p.authority.isEmpty

def isAbsolute (p : Parts) : Bool := !p.scheme.isEmpty && !p.authority.host.isEmpty

def rootedPath (p : Parts) : List Char :=
  let path := if p.isBare then p.path else resolveDots p.path
  if p.isAbsolute then path else '/' :: path.dropWhile (· = '/')

def check (p : Parts) : Except AddressError Unit := do
  (Host.check p.authority.host).mapError AddressError.badHost
  if !p.authority.port.isEmpty && !isPort p.authority.port then
    throw (.badPort (String.ofList p.authority.port))
  if p.isBare && p.path.take 2 = ['/', '/'] then throw .leadingSlashes
  if p.isBare && p.path.head? = some ':' then throw .leadingColon
  if !p.isAbsolute && lengthLimit < escapedLength isUnsafeInPath p.rootedPath then
    throw (.partTooLong "path")
  if !p.isAbsolute && lengthLimit < escapedLength isUnsafe p.query then
    throw (.partTooLong "query")

def requestedPath (p : Parts) : Except AddressError String :=
  let scheme := schemeName p.scheme
  if p.isAbsolute && !schemes.contains scheme then .error (.unknownScheme scheme)
  else .ok (String.ofList (unescape (unescape (resolveDots p.rootedPath))))

end Parts

def read (address : String) : Except AddressError Parts := do
  let cs := address.toList
  if lengthLimit < cs.length then throw .tooLong
  match cs.findIdx? isControl with
  | some position => throw (.unprintable (cs[position]?.getD ' ') position)
  | none =>
    let p := parts cs
    p.check
    return p

end Address

end EntityDiagram.Service
