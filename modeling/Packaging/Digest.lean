import Packaging.Text.Blank
import Packaging.Text.Hex

/-! # SHA-256 digests as text

A digest is a text of 64 hexadecimal digits. It keeps the case it was written in; two digests match
when they differ in case only. A sidecar is a text whose first token is a digest. -/

namespace Packaging

open Text

/-- A SHA-256 digest in hexadecimal digits, in the case it was written in. -/
structure Digest where
  /-- The digits. -/
  text : String
  size_eq : text.utf8ByteSize = 64
  isHex : text.toList.all Hex.isDigit = true
  deriving DecidableEq

namespace Digest

/-- Why a text gives no digest. -/
inductive Error where
  /-- It does not have 64 bytes. -/
  | length (size : Nat) (value : String)
  /-- It has a character that is no hexadecimal digit. -/
  | notHex (value : String)
  /-- A sidecar without a token. -/
  | empty
  deriving DecidableEq

/-- The wording of an error. -/
def Error.message : Error → String
  | .length size value =>
    s!"Invalid SHA256 digest: expected 64 hex characters, got {size} in '{value}'"
  | .notHex value => s!"Invalid SHA256 digest: contains non-hex characters in '{value}'"
  | .empty => "Empty checksum file"

/-- Reads a digest: the length is checked first, then the digits. -/
def ofText (s : String) : Except Error Digest :=
  if size_eq : s.utf8ByteSize = 64 then
    if isHex : s.toList.all Hex.isDigit = true then .ok ⟨s, size_eq, isHex⟩
    else .error (.notHex s)
  else .error (.length s.utf8ByteSize s)

/-- Whether two digests are equal when case is ignored. -/
def agrees (a b : Digest) : Bool :=
  a.text.toList.map Char.toLower == b.text.toList.map Char.toLower

/-- The sidecar of a file: the digest, two spaces, the file's name and a line end. -/
def sidecarLine (d : Digest) (filename : String) : String :=
  d.text ++ "  " ++ filename ++ "\n"

/-- Reads the digest of a sidecar, its first token. -/
def ofSidecar (contents : String) : Except Error Digest :=
  match firstToken contents.toList with
  | [] => .error .empty
  | token => ofText (String.ofList token)

end Digest

/-- The digest that 32 bytes spell. -/
def Digest.ofBytes (bytes : List UInt8) (h : bytes.length = 32) : Digest where
  text := String.ofList (Text.Hex.encode bytes)
  size_eq := by rw [Text.Hex.utf8ByteSize_encode, h]
  isHex := by simpa using Text.Hex.all_isDigit_encode bytes

end Packaging
