/-! # Bytes as text of sixty-four characters

Three bytes are written as four characters. What is missing of the last three is written as `=`. -/

namespace Packaging.Text.Base64

/-- The characters, each at the number that it stands for. -/
def alphabet : List Char :=
  "ABCDEFGHIJKLMNOPQRSTUVWXYZabcdefghijklmnopqrstuvwxyz0123456789+/".toList

/-- The character of the last six bits of a number. -/
def digit (n : Nat) : Char := alphabet.getD (n % 64) '='

/-- Bytes as text. -/
def encode : List UInt8 → List Char
  | [] => []
  | [a] =>
    let n := a.toNat * 16
    [digit (n / 64), digit n, '=', '=']
  | [a, b] =>
    let n := (a.toNat * 256 + b.toNat) * 4
    [digit (n / 4096), digit (n / 64), digit n, '=']
  | a :: b :: c :: bytes =>
    let n := (a.toNat * 256 + b.toNat) * 256 + c.toNat
    digit (n / 262144) :: digit (n / 4096) :: digit (n / 64) :: digit n :: encode bytes

/-- Four characters stand for three bytes, or for the last of them. -/
theorem length_encode (bytes : List UInt8) :
    (encode bytes).length = (bytes.length + 2) / 3 * 4 := by
  induction bytes using encode.induct with
  | case1 => rfl
  | case2 a => simp [encode]
  | case3 a b => simp [encode]
  | case4 a b c bytes ih =>
    simp only [encode, List.length_cons, ih]
    omega

example : (["", "M", "Ma", "Man", "u:p~?"].map fun s =>
    String.ofList (encode s.toUTF8.toList)) = ["", "TQ==", "TWE=", "TWFu", "dTpwfj8="] := by
  decide +kernel

end Packaging.Text.Base64
