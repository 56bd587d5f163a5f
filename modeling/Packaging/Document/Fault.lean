import Packaging.Digest
import Packaging.Text.Quoted

/-! # What can be wrong with a document

A text may be no document at all, it may end too early, or it may hold other data than its reader
wants. Only the last kind has a wording of its own. -/

namespace Packaging.Document

/-- A value as a message describes it. -/
inductive Shape where
  | null
  | boolean (b : Bool)
  | integer (n : Int)
  /-- A number that is no integer, in the writing of its format. -/
  | float (text : String)
  | string (s : String)
  | sequence
  | map
  deriving DecidableEq

/-- The description of a value. -/
def Shape.describe : Shape → String
  | .null => "null"
  | .boolean true => "boolean `true`"
  | .boolean false => "boolean `false`"
  | .integer n => s!"integer `{n}`"
  | .float text => s!"floating point `{text}`"
  | .string s => "string " ++ Text.quoted s
  | .sequence => "sequence"
  | .map => "map"

/-- What a reader may want and not find. -/
inductive DataFault where
  | missingField (name : String)
  | repeatedField (name : String)
  | unknownField (name : String) (known : List String)
  | unknownVariant (name : String) (known : List String)
  | mismatch (found : Shape) (wanted : String)
  | tooShort (length : Nat) (wanted : String)
  | digest (error : Digest.Error)
  deriving DecidableEq

/-- A list of alternatives, each between backticks. -/
def alternatives : List String → String
  | [] => "there are no alternatives"
  | [a] => s!"expected `{a}`"
  | [a, b] => s!"expected `{a}` or `{b}`"
  | names => "expected one of " ++ ", ".intercalate (names.map fun a => s!"`{a}`")

/-- The wording of a fault of the data. -/
def DataFault.message : DataFault → String
  | .missingField name => s!"missing field `{name}`"
  | .repeatedField name => s!"duplicate field `{name}`"
  | .unknownField name known => s!"unknown field `{name}`, " ++ alternatives known
  | .unknownVariant name known => s!"unknown variant `{name}`, " ++ alternatives known
  | .mismatch found wanted => "invalid type: " ++ found.describe ++ ", expected " ++ wanted
  | .tooShort length wanted => s!"invalid length {length}, expected {wanted}"
  | .digest error => error.message

/-- What is wrong with a document. -/
inductive Fault where
  /-- The text breaks the rules of its format. -/
  | malformed
  /-- The text ends before the document does. -/
  | truncated
  /-- The document holds other data than wanted. -/
  | data (fault : DataFault)
  deriving DecidableEq

/-- The wording of a fault. -/
def Fault.message : Fault → String
  | .malformed => "malformed text"
  | .truncated => "unexpected end of text"
  | .data fault => fault.message

end Packaging.Document
