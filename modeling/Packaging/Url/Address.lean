import Packaging.Url

/-! # Addresses of any scheme

A text is an address if it begins with the name of a scheme and a colon. After some schemes a host
must come; an address of a file may have one; after any other scheme, a host comes after two slashes
only, and may be anything that could be one. Requests are made for addresses of the web only, and
not for all of them. -/

namespace Packaging

open Text

/-- An address of any scheme. -/
inductive Address where
  /-- An address whose scheme needs a host. -/
  | url (u : Url)
  /-- An address of another scheme, as it is written. -/
  | other (scheme text : String)
  deriving DecidableEq

namespace Address

open Url

/-- The scheme of an address. -/
def scheme : Address → String
  | url u => u.scheme.name
  | other scheme _ => scheme

/-- An address as text. -/
def text : Address → String
  | url u => u.text
  | other _ text => text

/-! ## Addresses of other schemes -/

/-- The characters that are encoded in a query if no host must come after the scheme. -/
def inPlainQuery (c : Char) : Bool := inQuery c && c ≠ '\''

/-- What stands before the query and the fragment of an address, and both as they are written. -/
def splitEnd (set : Char → Bool) (cs : List Char) : List Char × List Char :=
  let (main, fragment) := cs.span (· ≠ '#')
  let (front, query) := main.span (· ≠ '?')
  (front, query.take 1 ++ encode set query.tail ++ fragment.take 1 ++
    encode inFragment fragment.tail)

/-- Segments as they are written. -/
def writePath (segments : List (List Char)) : List Char :=
  segments.flatMap fun segment => '/' :: encode inPath segment

/-- Segments without the empty ones that come first. -/
def dropEmpty : List (List Char) → List (List Char)
  | [] :: segment :: segments => dropEmpty (segment :: segments)
  | segments => segments

/-- The host of a file, which need not have one. A drive is no host. -/
def fileHost? (cs : List Char) : Option (List Char) :=
  if cs = [] then some []
  else (Host.ofText? cs).map fun host =>
    if host = .name "localhost".toList then [] else host.text

/-- What comes after the scheme in the address of a file. Files on a drive have no host. -/
def file? (cs : List Char) : Option (List Char) := do
  let (front, ending) := splitEnd inQuery cs
  let slashes := (front.take 2).takeWhile isSlash
  let (name, path) := (front.drop 2).span fun c => !isSlash c
  let isNamed := slashes.length = 2 ∧ ¬isDrive name
  let host ← if isNamed then fileHost? name else some []
  let path := if isNamed then path.drop 1 else front.drop slashes.length
  let segments := resolve true [] (splitAtMarks isSlash path)
  return ['/', '/'] ++ (if segments.head?.any isDrive then [] else host) ++
    writePath (dropEmpty segments) ++ ending

/-- Characters that no host has. -/
def hostless : List Char :=
  ['\x00', ' ', '#', '/', ':', '<', '>', '?', '@', '[', '\\', ']', '^', '|']

/-- A host as it is written, if no host must come after the scheme. -/
def plainHost? (cs : List Char) : Option (List Char) :=
  match cs with
  | '[' :: cs => (Host.bracketed? cs).map Host.text
  | cs => if cs.any hostless.contains then none else some (encode isUnprintable cs)

/-- The user, the host and the port as they are written, if no host must come after the scheme. Only
a host that is there may have a user or a port. -/
def plainAuthority? (cs : List Char) : Option (List Char) := do
  let (user, afterUser) := splitUser cs
  let (host, rest) := splitHost false afterUser
  let port ← portOf? none (rest.drop 1)
  if host = [] ∧ (user.isSome ∨ rest ≠ []) then none
  else
    return userOf (user.getD []) ++ (← plainHost? host) ++
      match port with
      | some n => ':' :: Nat.toDigits 10 n
      | none => []

/-- What comes after the scheme in an address of any other scheme. A path that begins with two
slashes has a point before them where there is no host. -/
def plain? (cs : List Char) : Option (List Char) := do
  let (front, ending) := splitEnd inPlainQuery cs
  let pathOf (cs : List Char) := resolve false [] (splitAtMarks (· = '/') cs)
  match front with
  | '/' :: '/' :: rest =>
    let (authority, path) := rest.span (· ≠ '/')
    return ['/', '/'] ++ (← plainAuthority? authority) ++
      (if path = [] then [] else writePath (pathOf (path.drop 1))) ++ ending
  | '/' :: path =>
    let written := writePath (pathOf path)
    return (if ['/', '/'].isPrefixOf written then ['/', '.'] else []) ++ written ++ ending
  | path => return encode isUnprintable path ++ ending

/-! ## Addresses -/

/-- Whether a text can be the name of a scheme. -/
def isScheme (cs : List Char) : Bool :=
  cs.head?.any Char.isAlpha && cs.all fun c => c.isAlphanum || ['+', '-', '.'].contains c

/-- The address that a text is, if any. -/
def ofText? (text : String) : Option Address :=
  let cs := clean text.toList
  let (name, rest) := cs.span (· ≠ ':')
  let scheme := String.ofList (name.map Char.toLower)
  if isScheme name ∧ rest ≠ [] then
    match Scheme.ofName? scheme with
    | some s => (afterSlashes? s ((rest.drop 1).dropWhile isSlash)).map url
    | none =>
      (if scheme = "file" then file? (rest.drop 1) else plain? (rest.drop 1)).map fun written =>
        other scheme (scheme ++ ":" ++ String.ofList written)
  else none

/-- The address that a request can be made for. -/
def sendable? : Address → Option Url
  | url u => if u.isSendable then some u else none
  | other _ _ => none

example : (["file:C|\\..\\x", "File://LocalHost//x?'", "file://h/./y", "FTP:a:21/b#`", "a+b:c d?'#é",
    "x:/.//y", "x://U@h:021/%2e/y", "x://h?q", "x://[::1]"].map fun s =>
      (ofText? s).map Address.text) =
    [some "file:///C:/x", some "file:///x?%27", some "file://h/y", some "ftp://a/b#%60",
      some "a+b:c d?'#%C3%A9", some "x:/.//y", some "x://h:21/y", some "x://h?q",
      some "x://[::1]"] := by decide +kernel

example : ["", "1:/x", "/x", "http://", "http://a:65536", "ftp:", "file://a:1/x", "x://@/y",
    "x://:1/y", "x://a b"].all (fun s => ofText? s = none) := by decide +kernel

end Address

namespace Url

/-- The address that a text is, if a request can be made for it. -/
def ofText? (text : String) : Option Url := (Address.ofText? text).bind Address.sendable?

example : ((ofText? " HTTP:\\\\a.B:080/x/./y/%2E./z y\n?q'#é ").map text) =
    some "http://a.b/x/z%20y?q%27#%C3%A9" := by decide +kernel

example : ((ofText? "https:u:p@[1:0::]:443").map text) = some "https://[1::]/" ∧
    ((ofText? "http://0x7f.1:/").map text) = some "http://127.0.0.1/" ∧
    ((ofText? "http://:@a@/b").map text) = none ∧
    ((ofText? "http://%ff:é@b@a").map text) = some "http://%ff:%C3%A9%40b@a/" ∧
    ofText? "ftp://a" = none ∧ ofText? "http://a\x7bb" = none := by decide +kernel

end Url

end Packaging
