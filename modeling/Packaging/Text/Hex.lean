/-! # Hexadecimal digits

Bytes are written as two lower-case digits each, the high one first, and read back from digits of
either case. -/

namespace Packaging.Text.Hex

/-- The digit of a value below sixteen, in lower case. -/
def digit (n : Nat) : Char :=
  if n < 10 then Char.ofNat ('0'.toNat + n) else Char.ofNat ('a'.toNat + (n - 10))

/-- The value of a digit of either case. -/
def value? (c : Char) : Option Nat :=
  if '0' ≤ c ∧ c ≤ '9' then some (c.toNat - '0'.toNat)
  else if 'a' ≤ c ∧ c ≤ 'f' then some (c.toNat - 'a'.toNat + 10)
  else if 'A' ≤ c ∧ c ≤ 'F' then some (c.toNat - 'A'.toNat + 10)
  else none

/-- Whether a character is a digit of either case. -/
def isDigit (c : Char) : Bool := (value? c).isSome

/-- A byte as two lower-case digits. -/
def encodeByte (b : UInt8) : List Char := [digit (b.toNat / 16), digit (b.toNat % 16)]

/-- Bytes as lower-case digits. -/
def encode (bytes : List UInt8) : List Char := bytes.flatMap encodeByte

/-- The bytes that digits of either case spell, two digits a byte. -/
def decode? : List Char → Option (List UInt8)
  | [] => some []
  | [_] => none
  | hi :: lo :: rest => do
    let h ← value? hi
    let l ← value? lo
    let bytes ← decode? rest
    return UInt8.ofNat (16 * h + l) :: bytes

/-- A number in lower-case digits, without leading zeros. -/
def ofNat (n : Nat) : List Char := Nat.toDigits 16 n

/-- The digit of a value reads as that value. -/
theorem value?_digit : ∀ {n : Nat}, n < 16 → value? (digit n) = some n := by decide

/-- A digit takes one byte. -/
theorem utf8Size_digit : ∀ {n : Nat}, n < 16 → (digit n).utf8Size = 1 := by decide

/-- Encoded bytes are digits. -/
theorem all_isDigit_encode (bytes : List UInt8) : (encode bytes).all isDigit = true := by
  simp only [encode, List.all_flatMap, List.all_eq_true, encodeByte, List.mem_cons,
    List.not_mem_nil, or_false, isDigit]
  intro b _ c hc
  have hb := b.toNat_lt
  rcases hc with rfl | rfl
  · rw [value?_digit (by omega)]; rfl
  · rw [value?_digit (by omega)]; rfl

/-- Every byte is encoded in two bytes of text. -/
theorem utf8ByteSize_encode (bytes : List UInt8) :
    (String.ofList (encode bytes)).utf8ByteSize = 2 * bytes.length := by
  have cons (c : Char) (cs : List Char) :
      (String.ofList (c :: cs)).utf8ByteSize = c.utf8Size + (String.ofList cs).utf8ByteSize := by
    rw [← List.singleton_append, String.ofList_append, String.utf8ByteSize_append]
    simp
  induction bytes with
  | nil => rfl
  | cons b bytes ih =>
    have hb := b.toNat_lt
    rw [encode, List.flatMap_cons, ← encode, encodeByte]
    simp only [List.cons_append, List.nil_append, cons, ih, List.length_cons,
      utf8Size_digit (n := b.toNat / 16) (by omega), utf8Size_digit (n := b.toNat % 16) (by omega)]
    omega

/-- Bytes are read back from their digits. -/
theorem decode?_encode (bytes : List UInt8) : decode? (encode bytes) = some bytes := by
  induction bytes with
  | nil => rfl
  | cons b bytes ih =>
    have hb := b.toNat_lt
    have hd : 16 * (b.toNat / 16) + b.toNat % 16 = b.toNat := Nat.div_add_mod ..
    rw [encode, List.flatMap_cons, ← encode]
    simp only [encodeByte, List.cons_append, List.nil_append, decode?, ih,
      value?_digit (n := b.toNat / 16) (by omega), value?_digit (n := b.toNat % 16) (by omega)]
    change some (UInt8.ofNat (16 * (b.toNat / 16) + b.toNat % 16) :: bytes) = _
    rw [hd, UInt8.ofNat_toNat]

end Packaging.Text.Hex
