import Packaging.Decimal.Style
import Packaging.Document.View

/-! # JSON values

A value that is completely read. An object keeps its entries in order, repeated keys included. -/

namespace Packaging

open Document

/-- A JSON number: an integer of 64 bits with or without sign, or else a floating-point number. -/
inductive Json.Number where
  | integer (n : Int)
  | float (x : Float)

/-- A JSON value. -/
inductive Json where
  | null
  | boolean (b : Bool)
  | number (n : Json.Number)
  | string (s : String)
  | array (items : List Json)
  | object (entries : List (String × Json))
  deriving Inhabited

namespace Json

/-- Floating-point numbers always show a point or a power of ten, and are positional from a
hundred-thousandth up to sixteen digits. -/
def numberStyle : Decimal.Style where
  least := -5
  greatest := 15
  tie := .even
  infinity := "inf"
  nan := "NaN"

/-- A value from the top. -/
def view : Json → View Json
  | .null => .null
  | .boolean b => .boolean b
  | .number (.integer n) => .integer n
  | .number (.float x) => .float (numberStyle.text x)
  | .string s => .string s
  | .array items => .sequence items .closed
  | .object entries => .map entries .closed

instance : Format Json where
  view := view
  skip _ := .ok ()
  surplus := .error .malformed

end Json

end Packaging
