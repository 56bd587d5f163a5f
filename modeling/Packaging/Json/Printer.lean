import Packaging.Json.Value
import Packaging.Text.Hex

/-! # Writing JSON texts

A value is written without spaces, or over several lines that are indented by two spaces for each
open bracket. In a string only the quote, the backslash and the characters below the space are
escaped. -/

namespace Packaging.Json

open Text

/-- Where a written value has spaces. -/
structure Spacing where
  /-- What separates a key from its value. -/
  colon : List Char
  /-- What stands before each item and before the closing bracket, inside so many brackets. -/
  gap : Nat → List Char

/-- No spaces. -/
def Spacing.compact : Spacing := ⟨[':'], fun _ => []⟩

/-- A line for each item. -/
def Spacing.pretty : Spacing := ⟨[':', ' '], fun depth => '\n' :: List.replicate (2 * depth) ' '⟩

/-- A character as it stands in a string. -/
def escapeChar (c : Char) : List Char :=
  match c with
  | '"' => ['\\', '"']
  | '\\' => ['\\', '\\']
  | '\x08' => ['\\', 'b']
  | '\x0c' => ['\\', 'f']
  | '\n' => ['\\', 'n']
  | '\r' => ['\\', 'r']
  | '\t' => ['\\', 't']
  | c =>
    if c.toNat < 0x20 then
      ['\\', 'u', '0', '0', Hex.digit (c.toNat / 16), Hex.digit (c.toNat % 16)]
    else [c]

/-- A string between quotes. -/
def writeString (s : String) : List Char := '"' :: s.toList.flatMap escapeChar ++ ['"']

/-- An integer in decimal digits. -/
def writeInteger (n : Int) : List Char :=
  if n < 0 then '-' :: Decimal.digitsOf n.natAbs else Decimal.digitsOf n.natAbs

mutual

/-- A value inside so many brackets. -/
def write (sp : Spacing) (depth : Nat) : Json → List Char
  | .null => ['n', 'u', 'l', 'l']
  | .boolean true => ['t', 'r', 'u', 'e']
  | .boolean false => ['f', 'a', 'l', 's', 'e']
  | .number (.integer n) => writeInteger n
  | .number (.float x) => (numberStyle.text x).toList
  | .string s => writeString s
  | .array [] => ['[', ']']
  | .array (x :: items) =>
    '[' :: sp.gap (depth + 1) ++ write sp (depth + 1) x ++ writeItems sp (depth + 1) items ++
      sp.gap depth ++ [']']
  | .object [] => ['{', '}']
  | .object ((key, x) :: entries) =>
    '{' :: sp.gap (depth + 1) ++ writeString key ++ sp.colon ++ write sp (depth + 1) x ++
      writeEntries sp (depth + 1) entries ++ sp.gap depth ++ ['}']

/-- The items of an array after the first. -/
def writeItems (sp : Spacing) (depth : Nat) : List Json → List Char
  | [] => []
  | x :: items => ',' :: sp.gap depth ++ write sp depth x ++ writeItems sp depth items

/-- The entries of an object after the first. -/
def writeEntries (sp : Spacing) (depth : Nat) : List (String × Json) → List Char
  | [] => []
  | (key, x) :: entries =>
    ',' :: sp.gap depth ++ writeString key ++ sp.colon ++ write sp depth x ++
      writeEntries sp depth entries

end

/-- A value as text with the given spaces. -/
def text (sp : Spacing) (x : Json) : String := String.ofList (write sp 0 x)

/-- A value as text without spaces. -/
def compact (x : Json) : String := x.text .compact

/-- A value as text over several lines. -/
def pretty (x : Json) : String := x.text .pretty

example : (Json.array [.null, .object [("a\n", .string "\x01")]]).compact =
    "[null,\x7b\"a\\n\":\"\\u0001\"\x7d]" := by decide +kernel

example : (Json.array [.array [], .boolean true]).pretty = "[\n  [],\n  true\n]" := by
  decide +kernel

end Packaging.Json
