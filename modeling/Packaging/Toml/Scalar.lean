import Packaging.Decimal.Nearest
import Packaging.Toml.Lexical
import Packaging.Toml.Value

/-! # Numbers, dates and truth values of TOML -/

namespace Packaging.Toml.Scan

/-- Digits of a base, single underscores between them allowed. -/
def digits (isDigit : Char → Bool) : Scan (List Char) := do
  let first ← satisfy isDigit
  let more ← many (satisfy isDigit <|> do char '_'; satisfy isDigit)
  return first :: more

/-- The number that digits of a base spell. -/
def ofDigits (base : Nat) (cs : List Char) : Nat :=
  cs.foldl (fun n c => base * n + (Text.Hex.value? c).getD 0) 0

/-- Whether a sign is a minus; no sign is none. -/
def sign : Scan Bool :=
  (do char '-'; return true) <|> (do char '+'; return false) <|> pure false

/-- Decimal digits that begin with zero only if it is the only one. -/
def wholeDigits : Scan (List Char) := do
  match ← peek? with
  | some '0' => return [← satisfy Char.isDigit]
  | _ => digits Char.isDigit

/-- An integer, if it has 64 bits. -/
def integerOf (n : Int) : Scan Toml :=
  if -UInt64.size ≤ 2 * n ∧ 2 * n < UInt64.size then return .integer n else failure

/-- An integer in a base that is marked by a letter after a zero. -/
def markedInteger (mark : String) (base : Nat) (isDigit : Char → Bool) : Scan Toml := do
  word mark
  integerOf (ofDigits base (← digits isDigit))

/-- An integer. -/
def integer : Scan Toml :=
  markedInteger "0x" 16 Text.Hex.isDigit <|>
    markedInteger "0o" 8 (fun c => '0' ≤ c && c ≤ '7') <|>
    markedInteger "0b" 2 (fun c => c == '0' || c == '1') <|> do
      let negative ← sign
      let n : Int := ofDigits 10 (← wholeDigits)
      integerOf (if negative then -n else n)

/-- The digits after a point. -/
def fraction : Scan (List Char) := do char '.'; digits Char.isDigit

/-- The power of ten after its mark. -/
def power : Scan Int := do
  char 'e' <|> char 'E'
  let negative ← sign
  let n : Int := ofDigits 10 (← digits Char.isDigit)
  return if negative then -n else n

/-- A floating-point number. One that is too great is no number, one that is too small a number
with a minus sign is minus infinity. -/
def float : Scan Toml :=
  (do
    let negative ← sign
    let whole ← wholeDigits
    let places ← opt fraction
    let exponent ← opt power
    if places.isNone ∧ exponent.isNone then failure
    let places := places.getD []
    let x := Decimal.nearest (ofDigits 10 (whole ++ places)) (exponent.getD 0 - places.length)
    if x.isInf ∧ ¬negative then failure
    return .float (if negative then -x else x)) <|> do
    let negative ← sign
    let x ← (do word "inf"; return (1.0 / 0.0 : Float)) <|> do word "nan"; return 0.0 / 0.0
    return .float (if negative then -x else x)

/-! ## Dates and times -/

/-- So many digits whose number lies between two bounds. -/
def bounded (places least greatest : Nat) : Scan Nat := do
  let n := ofDigits 10 (← exactly Char.isDigit places)
  if least ≤ n ∧ n ≤ greatest then return n else failure

/-- How many days a month of a year has. -/
def daysIn (year month : Nat) : Nat :=
  if month = 2 then if year % 4 = 0 ∧ (year % 100 ≠ 0 ∨ year % 400 = 0) then 29 else 28
  else if month ∈ [4, 6, 9, 11] then 30 else 31

/-- A date. -/
def date : Scan Unit := do
  let year ← bounded 4 0 9999
  char '-'
  let month ← bounded 2 1 12
  char '-'
  let _ ← bounded 2 1 (daysIn year month)

/-- A time of day. -/
def time : Scan Unit := do
  let _ ← bounded 2 0 23
  char ':'
  let _ ← bounded 2 0 59
  char ':'
  let _ ← bounded 2 0 60
  let _ ← opt (do char '.'; takeSome Char.isDigit)

/-- The distance from universal time. -/
def timeZone : Scan Unit :=
  char 'Z' <|> char 'z' <|> do
    char '+' <|> char '-'
    let _ ← bounded 2 0 23
    char ':'
    let _ ← bounded 2 0 59

/-- A date, a time, or both. -/
def dateTime : Scan Toml :=
  (do
    date
    let _ ← opt (do char 'T' <|> char 't' <|> char ' '; time; opt timeZone)
    return .dateTime) <|> do
    time
    return .dateTime

/-- A truth value. -/
def boolean : Scan Toml :=
  (do word "true"; return .boolean true) <|> do word "false"; return .boolean false

/-- A value without brackets. -/
def scalar : Scan Toml :=
  (.string <$> string) <|> dateTime <|> float <|> integer <|> boolean

end Packaging.Toml.Scan
