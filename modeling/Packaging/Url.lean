import Packaging.Url.Host

/-! # Web addresses

An address is read as browsers read it: spaces and controls around it are dropped, and so are tabs
and line ends inside it; a backslash is a slash; the segments `.` and `..` of the path are resolved;
and characters that may not stand in an address are written as the hexadecimal digits of their UTF-8
bytes. The name of a user before the host is no part of the address, unless it is no text; it says
who asks. -/

namespace Packaging

open Text

/-- The schemes after which a host must come. -/
inductive Scheme where
  | http
  | https
  | ftp
  | ws
  | wss
  deriving DecidableEq

namespace Scheme

/-- How a scheme is written. -/
def name : Scheme → String
  | http => "http"
  | https => "https"
  | ftp => "ftp"
  | ws => "ws"
  | wss => "wss"

/-- The usual port of a scheme. -/
def port : Scheme → Nat
  | ftp => 21
  | http | ws => 80
  | https | wss => 443

/-- The scheme that is written so. -/
def ofName? (name : String) : Option Scheme :=
  [http, https, ftp, ws, wss].find? (·.name = name)

end Scheme

/-- A web address. The parts are as they are written in an address. -/
structure Url where
  scheme : Scheme
  /-- The name and the password of the user, with a colon between them, if they are texts. -/
  login : Option (List UInt8)
  /-- What stays of the user before the host, with the sign between them. -/
  user : List Char
  host : Host
  /-- The port, if it is not the usual one of the scheme. -/
  port : Option Nat
  /-- The segments of the path, one at least. -/
  path : List (List Char)
  query : Option (List Char)
  fragment : Option (List Char)
  deriving DecidableEq

namespace Url

/-! ## What is encoded -/

/-- Controls and all characters beyond ASCII, which are encoded everywhere. -/
def isUnprintable (c : Char) : Bool := c.toNat < 0x20 || 0x7e < c.toNat

/-- The characters that are encoded in a fragment. -/
def inFragment (c : Char) : Bool := isUnprintable c || [' ', '"', '<', '>', '`'].contains c

/-- The characters that are encoded in a path. -/
def inPath (c : Char) : Bool := inFragment c || ['#', '?', '{', '}'].contains c

/-- The characters that are encoded in a query. -/
def inQuery (c : Char) : Bool := isUnprintable c || [' ', '"', '#', '<', '>', '\''].contains c

/-- The characters that are encoded in the name of a user. -/
def inUser (c : Char) : Bool :=
  inPath c || ['/', ':', ';', '=', '@', '[', '\\', ']', '^', '|'].contains c

/-! ## Paths -/

/-- Whether a character separates segments. -/
def isSlash (c : Char) : Bool := c = '/' || c = '\\'

/-- A segment with its encoded points decoded, if it is made of points only. -/
def points? : List Char → Option Nat
  | [] => some 0
  | '.' :: cs => (points? cs).map (· + 1)
  | '%' :: '2' :: 'e' :: cs => (points? cs).map (· + 1)
  | '%' :: '2' :: 'E' :: cs => (points? cs).map (· + 1)
  | _ => none

/-- Whether a segment is a drive: a letter with a colon or a bar. -/
def isDrive : List Char → Bool
  | [letter, mark] => letter.isAlpha && (mark = ':' || mark = '|')
  | _ => false

/-- The segments before without the last. A path of files keeps the drive that it begins with. -/
def parent (ofFiles : Bool) (before : List (List Char)) : List (List Char) :=
  match before with
  | [segment] => if ofFiles && isDrive segment then [segment] else []
  | _ => before.tail

/-- The segments before with another one. In a path of files, a drive that comes first has a
colon. -/
def child (ofFiles : Bool) (segment : List Char) (before : List (List Char)) : List (List Char) :=
  (if ofFiles && before.isEmpty && isDrive segment then segment.take 1 ++ [':'] else segment) ::
    before

/-- The segments of a path without the points among them, given those before them in reverse order.
A point or two at the end leave an empty segment. -/
def resolve (ofFiles : Bool) (before : List (List Char)) : List (List Char) → List (List Char)
  | [] => before.reverse
  | segment :: segments =>
    let next :=
      match points? segment with
      | some 1 => before
      | some 2 => parent ofFiles before
      | _ => child ofFiles segment before
    let isPoints := points? segment = some 1 ∨ points? segment = some 2
    if segments.isEmpty ∧ isPoints then ([] :: next).reverse else resolve ofFiles next segments

/-- The segments of the path of an address. -/
def pathOf (cs : List Char) : List (List Char) :=
  resolve false [] (splitAtMarks isSlash (cs.drop 1)) |>.map (encode inPath)

/-! ## Hosts -/

/-- The number that a port's digits spell; no digits are the usual port. -/
def portOf? (usual : Option Nat) (digits : List Char) : Option (Option Nat) :=
  if digits.all Char.isDigit then
    let n := digits.foldl (fun n c => 10 * n + (c.toNat - '0'.toNat)) 0
    if digits = [] ∨ some n = usual then some none else if n < 65536 then some (some n) else none
  else none

/-- The host, and the port with a colon before it if there is one. Colons between brackets belong to
the host. -/
def splitHost (inBrackets : Bool) : List Char → List Char × List Char
  | [] => ([], [])
  | c :: cs =>
    if c = ':' ∧ ¬inBrackets then ([], c :: cs)
    else
      let (host, rest) := splitHost (c = '[' || inBrackets && c ≠ ']') cs
      (c :: host, rest)

/-- Whether a text with encoded bytes is a text when it is decoded. -/
def decodesToText (cs : List Char) : Bool := (Text.ofBytes? (decode cs)).isSome

/-- The name and the password before a host, and whether they say who asks: the name must be a text,
and if there is none, the password. -/
def readUser (cs : List Char) : List Char × List Char × Bool :=
  let (name, rest) := cs.span (· ≠ ':')
  let password := rest.drop 1
  (name, password, decodesToText name && (name ≠ [] || decodesToText password))

/-- What says who asks, of what stands before a host. A password that is no text does not. -/
def loginOf (cs : List Char) : Option (List UInt8) :=
  let (name, password, isLogin) := readUser cs
  if isLogin ∧ (name ≠ [] ∨ password ≠ []) then
    some (decode name ++ decode [':'] ++ if decodesToText password then decode password else [])
  else none

/-- What stays of a user's name and password in the address. -/
def userOf (cs : List Char) : List Char :=
  let (name, password, isLogin) := readUser cs
  if isLogin then []
  else
    encode inUser name ++ (if password = [] then [] else ':' :: encode inUser password) ++ ['@']

/-- What stands before the last `@` of a text, if there is one, and what comes after it. -/
def splitUser (cs : List Char) : Option (List Char) × List Char :=
  let after := (cs.reverse.takeWhile (· ≠ '@')).reverse
  (if cs.contains '@' then some (cs.take (cs.length - after.length - 1)) else none, after)

/-- The user, the host and the port of an address. -/
def authority? (usual : Nat) (cs : List Char) : Option (List Char × Host × Option Nat) := do
  let (user, afterUser) := splitUser cs
  let (host, rest) := splitHost false afterUser
  return (user.getD [], ← Host.ofText? host, ← portOf? usual (rest.drop 1))

/-! ## Addresses -/

/-- What is read of a text: all but the spaces and controls around it and the tabs and line ends
inside it. -/
def clean (cs : List Char) : List Char :=
  let isOuter (c : Char) : Bool := c.toNat ≤ 0x20
  ((cs.dropWhile isOuter).reverse.dropWhile isOuter).reverse.filter
    fun c => c ≠ '\t' && c ≠ '\n' && c ≠ '\r'

/-- The rest of an address after the scheme and the slashes. -/
def afterSlashes? (scheme : Scheme) (cs : List Char) : Option Url := do
  let (authority, rest) := cs.span fun c => !(isSlash c || c = '?' || c = '#')
  let (user, host, port) ← authority? scheme.port authority
  let (main, fragment) := rest.span (· ≠ '#')
  let (path, query) := main.span (· ≠ '?')
  return { scheme, login := loginOf user, user := userOf user, host, port, path := pathOf path
           query := query.head?.map fun _ => encode inQuery query.tail
           fragment := fragment.head?.map fun _ => encode inFragment fragment.tail }

/-- The path and the query, which a request asks for. -/
def target (u : Url) : String :=
  String.ofList <| u.path.flatMap ('/' :: ·) ++
    match u.query with
    | some query => '?' :: query
    | none => []

/-- The scheme, the host with what stays before it, and the port. -/
def origin (u : Url) : String :=
  u.scheme.name ++ "://" ++ String.ofList (u.user ++ u.host.text) ++
    match u.port with
    | some n => ":" ++ toString n
    | none => ""

/-- An address without its fragment. -/
def withoutFragment (u : Url) : String := u.origin ++ u.target

/-- An address as text. -/
def text (u : Url) : String :=
  u.withoutFragment ++ match u.fragment with
    | some fragment => "#" ++ String.ofList fragment
    | none => ""

/-! ## Addresses that requests are made for -/

/-- The longest address, in bytes. -/
def longest : Nat := 65534

/-- Characters of hosts that no request is made with. -/
def unsent : List Char := ['"', '`', '{', '}']

/-- Whether a request can be made for an address. -/
def isSendable (u : Url) : Bool :=
  (u.scheme = .http || u.scheme = .https) && u.host.text.all (fun c => !unsent.contains c) &&
    decide (u.text.utf8ByteSize ≤ longest)

end Url

end Packaging
