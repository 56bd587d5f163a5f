import Packaging.Text.Hex
import Packaging.Toml.Scan

/-! # Blanks, comments, strings and keys of TOML -/

namespace Packaging.Toml.Scan

/-- Whether a character may stand in a comment: a tab or any character that is no control. -/
def isPlain (c : Char) : Bool := c == '\t' || (0x20 ≤ c.toNat && c.toNat ≠ 0x7f)

/-- Tabs and spaces. -/
def blanks : Scan Unit := do let _ ← takeWhile fun c => c == ' ' || c == '\t'

/-- The end of a line. -/
def newline : Scan Unit := char '\n' <|> (do char '\r'; char '\n')

/-- A comment up to the end of its line. -/
def comment : Scan Unit := do
  char '#'
  let _ ← takeWhile isPlain

/-- What may follow on the line of an entry or a header. -/
def lineEnd : Scan Unit := do
  blanks
  let _ ← opt comment
  newline <|> endOfText

/-- Blanks, line ends and comments, as they may stand in an array. -/
def arrayBlanks : Scan Unit := do
  blanks
  let _ ← many (do let _ ← opt comment; newline; blanks)

/-! ## Strings -/

/-- The character of a code point given in hexadecimal digits. -/
def codePoint (digits : Nat) : Scan Char := do
  let cs ← exactly Text.Hex.isDigit digits
  let n := cs.foldl (fun n c => 16 * n + (Text.Hex.value? c).getD 0) 0
  if n.isValidChar then return Char.ofNat n else failure

/-- The character that an escape after a backslash stands for. -/
def escape : Scan Char := do
  match ← satisfy fun _ => true with
  | 'b' => return '\x08'
  | 't' => return '\t'
  | 'n' => return '\n'
  | 'f' => return '\x0c'
  | 'r' => return '\r'
  | '"' => return '"'
  | '\\' => return '\\'
  | 'u' => codePoint 4
  | 'U' => codePoint 8
  | _ => failure

/-- A piece of a string with escapes. -/
def basicPiece : Scan (List Char) :=
  takeSome (fun c => isPlain c && c != '"' && c != '\\') <|> do
    char '\\'
    return [← escape]

/-- A string on one line, with escapes. -/
def basicString : Scan String := do
  char '"'
  let pieces ← many basicPiece
  char '"'
  return String.ofList pieces.flatten

/-- A string on one line, without escapes. -/
def literalString : Scan String := do
  char '\''
  let cs ← takeWhile fun c => isPlain c && c != '\''
  char '\''
  return String.ofList cs

/-- One or two quotes inside a string over several lines: quotes that no third one follows. -/
def innerQuotes (quote : Char) : Scan (List Char) := do
  let quotes ← takeSome (· == quote)
  if quotes.length ≤ 2 then return quotes else failure

/-- The end of a string over several lines: three quotes after at most two more. -/
def closingQuotes (quote : Char) : Scan (List Char) := do
  let quotes ← takeSome (· == quote)
  if 3 ≤ quotes.length ∧ quotes.length ≤ 5 then return quotes.drop 3 else failure

/-- A backslash at the end of a line, which joins the line to the next text. -/
def continuation : Scan (List Char) := do
  char '\\'
  blanks
  newline
  let _ ← many (newline <|> do let _ ← takeSome fun c => c == ' ' || c == '\t')
  return []

/-- The end of a line inside a string. -/
def innerNewline : Scan (List Char) := do
  newline
  return ['\n']

/-- A string over several lines that is made of given pieces. -/
def multiline (quote : Char) (piece : Scan (List Char)) : Scan String := do
  char quote
  char quote
  char quote
  let _ ← opt newline
  let pieces ← many (piece <|> innerNewline <|> innerQuotes quote)
  let last ← closingQuotes quote
  return String.ofList (pieces.flatten ++ last)

/-- A string. -/
def string : Scan String :=
  multiline '"' (basicPiece <|> continuation) <|> basicString <|>
    multiline '\'' (takeSome fun c => isPlain c && c != '\'') <|> literalString

/-! ## Keys -/

/-- Whether a character may stand in a key without quotes. -/
def isBare (c : Char) : Bool := c.isAlphanum || c == '-' || c == '_'

/-- One part of a key. -/
def simpleKey : Scan String :=
  basicString <|> literalString <|> do return String.ofList (← takeSome isBare)

/-- How many parts a key may have, and how many brackets may be open inside one another. -/
def depthLimit : Nat := 79

/-- A key of one part or more, separated by points. -/
def key : Scan (List String) := do
  let parts ← separated (do blanks; let k ← simpleKey; blanks; return k) '.'
  if parts.length ≤ depthLimit then return parts else failure

end Packaging.Toml.Scan
