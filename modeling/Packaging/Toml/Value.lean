import Packaging.Decimal.Style
import Packaging.Document.View

/-! # TOML values

A table keeps its entries in the order in which they came to stand in the document. Of a date or a
time it is only known that it is one: readers see an empty map. -/

namespace Packaging

open Document

/-- A TOML value. -/
inductive Toml where
  | string (s : String)
  | integer (n : Int)
  | float (x : Float)
  | boolean (b : Bool)
  | dateTime
  | array (items : List Toml)
  | table (entries : List (String × Toml))
  deriving Inhabited

namespace Toml

/-- Floating-point numbers are always positional. -/
def floatStyle : Decimal.Style where
  least := -400
  greatest := 400
  tie := .up
  infinity := "inf"
  nan := "NaN"

/-- A value from the top. -/
def view : Toml → View Toml
  | .string s => .string s
  | .integer n => .integer n
  | .float x => .float (floatStyle.text x)
  | .boolean b => .boolean b
  | .dateTime => .map [] .closed
  | .array items => .sequence items .closed
  | .table entries => .map entries .closed

instance : Format Toml where
  view := view
  skip _ := .ok ()
  surplus := .ok ()

end Toml

end Packaging
