import Packaging.Text.Hex
import Packaging.Text.Printable

/-! # Texts quoted in messages

A text in a message stands between double quotes. A quote, a backslash, a tab, a line end and the
null character are written after a backslash; any other character that is not printable is written
as its code point in hexadecimal digits between braces. -/

namespace Packaging.Text

/-- A character as it stands in a quoted text. -/
def quoteChar (c : Char) : List Char :=
  match c with
  | '\x00' => ['\\', '0']
  | '\t' => ['\\', 't']
  | '\r' => ['\\', 'r']
  | '\n' => ['\\', 'n']
  | '\\' => ['\\', '\\']
  | '"' => ['\\', '"']
  | c => if isPrintable c then [c] else ['\\', 'u', '{'] ++ Hex.ofNat c.toNat ++ ['}']

/-- A text between double quotes. -/
def quoted (s : String) : String :=
  String.ofList (['"'] ++ s.toList.flatMap quoteChar ++ ['"'])

example : quoted "a\"\u200b\n" = "\"a\\\"\\u\x7b200b\x7d\\n\"" := by decide +kernel

end Packaging.Text
