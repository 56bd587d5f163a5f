import Packaging.Json.Value
import Packaging.Text.ByteOrder
import Packaging.Text.Hex

/-! # Words, numbers and strings of JSON

A lexeme has a value for whoever reads it. Passing over it is more lenient: the value may be out of
range or no text at all, as long as the end of the lexeme can be found. -/

namespace Packaging.Json

open Document Text

/-- A piece of a JSON text that stands for a scalar. -/
structure Lexeme (α : Type) where
  /-- The value, for a reader who wants it. -/
  value : Except Fault α
  /-- Whether a reader who does not want it gets past it. -/
  skip : Except Fault Unit

namespace Lexeme

variable {α : Type}

/-- A lexeme with a value. -/
def sound (a : α) : Lexeme α := ⟨.ok a, .ok ()⟩

/-- A lexeme with or without a value whose end is found. -/
def ofValue (value : Except Fault α) : Lexeme α := ⟨value, .ok ()⟩

/-- A lexeme without an end. -/
def broken (read skip : Fault) : Lexeme α := ⟨.error read, .error skip⟩

/-- Whether nothing can be read after the lexeme. -/
def isBroken (x : Lexeme α) : Bool := !x.skip.isOk

end Lexeme

/-! ## Words -/

/-- Matches the rest of a word byte for byte. -/
def matchWord : List UInt8 → List UInt8 → Except Fault (List UInt8)
  | [], bytes => .ok bytes
  | _ :: _, [] => .error .truncated
  | e :: word, b :: bytes => if e = b then matchWord word bytes else .error .malformed

/-- The word `null`, `true` or `false` whose first letter was read. -/
def wordFrom (value : Option Bool) (word bytes : List UInt8) :
    Lexeme (Option Bool) × List UInt8 :=
  match matchWord word bytes with
  | .ok rest => (.sound value, rest)
  | .error fault => (.broken fault fault, [])

/-- A word ends no earlier than it begins. -/
theorem length_rest_wordFrom (value : Option Bool) (word bytes : List UInt8) :
    (wordFrom value word bytes).2.length ≤ bytes.length := by
  have shorter : ∀ {word bytes rest : List UInt8}, matchWord word bytes = .ok rest →
      rest.length ≤ bytes.length := by
    intro word
    induction word with
    | nil => simp_all [matchWord]
    | cons e word ih =>
      intro bytes rest h
      cases bytes with
      | nil => simp [matchWord] at h
      | cons b bytes =>
        simp only [matchWord] at h
        split at h
        · have := ih h; simp only [List.length_cons]; omega
        · simp at h
  unfold wordFrom
  split
  · rename_i h; exact shorter h
  · simp

/-! ## Numbers -/

/-- A number as it is written. -/
structure Numeral where
  negative : Bool
  whole : List Nat
  fraction : List Nat
  /-- The power of ten, if one is written. -/
  power : Option Int
  /-- Whether a point is written. -/
  pointed : Bool

/-- The value of a decimal digit. -/
def digit? (b : UInt8) : Option Nat := if 48 ≤ b ∧ b ≤ 57 then some (b.toNat - 48) else none

/-- The digits at the front. -/
def digitsOf : List UInt8 → List Nat × List UInt8
  | [] => ([], [])
  | b :: bytes =>
    match digit? b with
    | some d => let (ds, rest) := digitsOf bytes; (d :: ds, rest)
    | none => ([], b :: bytes)

/-- One digit at least. A text that ends instead is truncated to a reader, and malformed to one who
only passes over the number. -/
def someDigits (bytes : List UInt8) : Except (Fault × Fault) (List Nat × List UInt8) :=
  let found := digitsOf bytes
  if found.1.isEmpty then .error (if bytes.isEmpty then .truncated else .malformed, .malformed)
  else .ok found

/-- The digits before the point, which begin with zero only if it is the only one. -/
def wholeDigits (bytes : List UInt8) : Except (Fault × Fault) (List Nat × List UInt8) := do
  let found ← someDigits bytes
  match found.1 with
  | 0 :: _ :: _ => throw (.malformed, .malformed)
  | _ => return found

/-- The digits after a point, if one follows. -/
def fractionDigits (bytes : List UInt8) :
    Except (Fault × Fault) (Bool × List Nat × List UInt8) :=
  match bytes with
  | 46 :: rest => do return (true, ← someDigits rest)
  | _ => return (false, [], bytes)

/-- The number that decimal digits spell. -/
def ofDigits (digits : List Nat) : Nat := digits.foldl (fun n d => 10 * n + d) 0

/-- Whether a minus sign is at the front, and what follows the sign. -/
def signOf : List UInt8 → Bool × List UInt8
  | 43 :: rest => (false, rest)
  | 45 :: rest => (true, rest)
  | rest => (false, rest)

/-- The power of ten, if a mark for one follows. -/
def powerOf (bytes : List UInt8) : Except (Fault × Fault) (Option Int × List UInt8) :=
  match bytes with
  | [] => return (none, [])
  | b :: rest =>
    if b = 69 ∨ b = 101 then do
      let (negative, rest) := signOf rest
      let (digits, rest) ← someDigits rest
      return (some (if negative then -ofDigits digits else ofDigits digits), rest)
    else return (none, b :: rest)

/-- The number at the front, with its sign known. -/
def numeralAfterSign (negative : Bool) (bytes : List UInt8) :
    Except (Fault × Fault) (Numeral × List UInt8) := do
  let whole ← wholeDigits bytes
  let fraction ← fractionDigits whole.2
  let power ← powerOf fraction.2.2
  return (⟨negative, whole.1, fraction.2.1, power.1, fraction.1⟩, power.2)

/-- The number at the front. -/
def numeralOf : List UInt8 → Except (Fault × Fault) (Numeral × List UInt8)
  | [] => .error (.truncated, .malformed)
  | b :: bytes =>
    if b = 45 then numeralAfterSign true bytes else numeralAfterSign false (b :: bytes)

/-- The digits before the point as a number of 64 bits and a power of ten: the digits that do not
fit only count. -/
def takeWhole (digits : List Nat) : Nat × Int :=
  digits.foldl
    (fun (m, e) d => if e = 0 ∧ 10 * m + d < UInt64.size then (10 * m + d, 0) else (m, e + 1))
    (0, 0)

/-- The digits after the point, appended while they fit in 64 bits. -/
def takeFraction (m : Nat) (e : Int) : List Nat → Nat × Int
  | [] => (m, e)
  | d :: digits =>
    if 10 * m + d < UInt64.size then takeFraction (10 * m + d) (e - 1) digits else (m, e)

/-- A power of ten, rounded. -/
def tenTo (n : Nat) : Float := Float.ofScientific 1 false n

/-- A number times a power of ten, in steps of at most 308 powers; no number is infinite. -/
def scale (x : Float) (e : Int) : Except Fault Float :=
  if 308 < e then if x == 0 then .ok x else .error .malformed
  else if 0 ≤ e then
    let y := x * tenTo e.toNat
    if y.isInf then .error .malformed else .ok y
  else if -308 ≤ e then .ok (x / tenTo (-e).toNat)
  else if x == 0 then .ok x
  else scale (x / tenTo 308) (e + 308)
termination_by (-e).toNat

/-- The value of a number: an integer when it is written as one and has 64 bits. -/
def Numeral.value (n : Numeral) : Except Fault Number :=
  let (m, e) := takeWhole n.whole
  let float (m : Nat) (e : Int) : Except Fault Number := do
    let x ← scale (UInt64.ofNat m).toFloat e
    return .float (if n.negative then -x else x)
  if n.pointed ∨ n.power.isSome ∨ e ≠ 0 then
    let (m, e) := takeFraction m e n.fraction
    float m (e + n.power.getD 0)
  else if n.negative then
    if 0 < m ∧ 2 * m ≤ UInt64.size then .ok (.integer (-m)) else float m 0
  else .ok (.integer m)

/-- The number at the front, which a sign or a digit begins. -/
def numberFrom (bytes : List UInt8) : Lexeme Number × List UInt8 :=
  match numeralOf bytes with
  | .ok (n, rest) => (.ofValue n.value, rest)
  | .error (read, skip) => (.broken read skip, [])

theorem length_rest_digitsOf (bytes : List UInt8) :
    (digitsOf bytes).1.length + (digitsOf bytes).2.length = bytes.length := by
  induction bytes with
  | nil => rfl
  | cons b bytes ih =>
    simp only [digitsOf]
    split
    · simp only [List.length_cons]; omega
    · simp

theorem length_rest_someDigits {bytes rest : List UInt8} {ds : List Nat}
    (h : someDigits bytes = .ok (ds, rest)) : rest.length < bytes.length := by
  have := length_rest_digitsOf bytes
  simp only [someDigits] at h
  split at h
  · simp at h
  · rename_i hne
    simp only [Except.ok.injEq] at h
    simp only [h, List.isEmpty_iff, ← List.length_eq_zero_iff] at this hne
    omega

theorem length_rest_wholeDigits {bytes rest : List UInt8} {ds : List Nat}
    (h : wholeDigits bytes = .ok (ds, rest)) : rest.length < bytes.length := by
  unfold wholeDigits at h
  cases hs : someDigits bytes with
  | error e => simp [hs, bind, Except.bind] at h
  | ok found =>
    simp only [hs, bind, Except.bind] at h
    split at h
    · simp [throw, throwThe, MonadExceptOf.throw] at h
    · simp only [pure, Except.pure, Except.ok.injEq] at h
      subst h
      exact length_rest_someDigits hs

theorem length_rest_fractionDigits {bytes rest : List UInt8} {pointed : Bool} {ds : List Nat}
    (h : fractionDigits bytes = .ok (pointed, ds, rest)) : rest.length ≤ bytes.length := by
  unfold fractionDigits at h
  split at h
  · rename_i tail
    cases hs : someDigits tail with
    | error e => simp [hs, bind, Except.bind] at h
    | ok found =>
      simp only [hs, bind, Except.bind, pure, Except.pure, Except.ok.injEq, Prod.mk.injEq] at h
      obtain ⟨_, rfl⟩ := h
      have := length_rest_someDigits hs
      simp only [List.length_cons]; omega
  · simp only [pure, Except.pure, Except.ok.injEq, Prod.mk.injEq] at h
    simp [h.2.2]

theorem length_rest_signOf (bytes : List UInt8) : (signOf bytes).2.length ≤ bytes.length := by
  unfold signOf
  split <;> simp

theorem length_rest_powerOf {bytes rest : List UInt8} {power : Option Int}
    (h : powerOf bytes = .ok (power, rest)) : rest.length ≤ bytes.length := by
  unfold powerOf at h
  split at h
  · simp only [pure, Except.pure, Except.ok.injEq, Prod.mk.injEq] at h
    simp [← h.2]
  · rename_i b tail
    split at h
    · have hsign := length_rest_signOf tail
      cases hs : someDigits (signOf tail).2 with
      | error e => simp [hs, bind, Except.bind] at h
      | ok found =>
        simp only [hs, bind, Except.bind, pure, Except.pure, Except.ok.injEq, Prod.mk.injEq] at h
        obtain ⟨_, rfl⟩ := h
        have := length_rest_someDigits hs
        simp only [List.length_cons]; omega
    · simp only [pure, Except.pure, Except.ok.injEq, Prod.mk.injEq] at h
      simp [← h.2]

theorem length_rest_numeralAfterSign {negative : Bool} {bytes rest : List UInt8} {n : Numeral}
    (h : numeralAfterSign negative bytes = .ok (n, rest)) : rest.length < bytes.length := by
  unfold numeralAfterSign at h
  cases hw : wholeDigits bytes with
  | error e => simp [hw, bind, Except.bind] at h
  | ok whole =>
    have h1 : whole.2.length < bytes.length := length_rest_wholeDigits hw
    cases hf : fractionDigits whole.2 with
    | error e => simp [hw, hf, bind, Except.bind] at h
    | ok fraction =>
      have h2 : fraction.2.2.length ≤ whole.2.length := length_rest_fractionDigits hf
      cases hp : powerOf fraction.2.2 with
      | error e => simp [hw, hf, hp, bind, Except.bind] at h
      | ok power =>
        have h3 : power.2.length ≤ fraction.2.2.length := length_rest_powerOf hp
        simp only [hw, hf, hp, bind, Except.bind, pure, Except.pure, Except.ok.injEq,
          Prod.mk.injEq] at h
        rw [← h.2]
        omega

/-- Every number takes a byte at least. -/
theorem length_rest_numberFrom (b : UInt8) (bytes : List UInt8) :
    (numberFrom (b :: bytes)).2.length ≤ bytes.length := by
  unfold numberFrom
  split
  · rename_i n rest h
    simp only [numeralOf] at h
    split at h
    · exact Nat.le_of_lt (length_rest_numeralAfterSign h)
    · exact Nat.le_of_lt_succ (length_rest_numeralAfterSign h)
  · simp

/-! ## Strings -/

/-- What comes next inside a string. -/
inductive Piece where
  /-- The closing quote. -/
  | finish (rest : List UInt8)
  /-- Bytes of the string. -/
  | bytes (copied rest : List UInt8)
  /-- Half a surrogate pair, which is no character. -/
  | half (fault : Fault) (rest : List UInt8)
  /-- No end of the string can be found. -/
  | broken (fault : Fault)

/-- The number of four hexadecimal digits. -/
def hexQuad? (a b c d : UInt8) : Option Nat := do
  let hex (x : UInt8) := Hex.value? (Char.ofUInt8 x)
  return 16 * (16 * (16 * (← hex a) + (← hex b)) + (← hex c)) + (← hex d)

/-- The bytes of a code point that is no surrogate. -/
def codeBytes (n : Nat) : List UInt8 := String.utf8EncodeChar (Char.ofNat n)

/-- The fault of a leading half that no trailing half follows. -/
def halfFault : List UInt8 → Fault
  | [] => .truncated
  | [92] => .truncated
  | 92 :: 117 :: rest =>
    match rest with
    | _ :: _ :: _ :: _ :: _ => .malformed
    | _ => .truncated
  | _ => .malformed

/-- The trailing half at the front. -/
def trailingHalf? : List UInt8 → Option (Nat × List UInt8)
  | 92 :: 117 :: a :: b :: c :: d :: rest => do
    let n ← hexQuad? a b c d
    if 0xdc00 ≤ n ∧ n ≤ 0xdfff then some (n, rest) else none
  | _ => none

/-- The character whose code follows. -/
def codePiece : List UInt8 → Piece
  | a :: b :: c :: d :: rest =>
    match hexQuad? a b c d with
    | none => .broken .malformed
    | some n =>
      if 0xd800 ≤ n ∧ n ≤ 0xdbff then
        match trailingHalf? rest with
        | some (m, rest) => .bytes (codeBytes (0x10000 + 1024 * (n - 0xd800) + (m - 0xdc00))) rest
        | none => .half (halfFault rest) rest
      else if 0xdc00 ≤ n ∧ n ≤ 0xdfff then .half .malformed rest
      else .bytes (codeBytes n) rest
  | _ => .broken .truncated

/-- The byte that a letter after a backslash stands for. -/
def escape? (b : UInt8) : Option UInt8 :=
  match Char.ofUInt8 b with
  | '"' => some 34
  | '\\' => some 92
  | '/' => some 47
  | 'b' => some 8
  | 'f' => some 12
  | 'n' => some 10
  | 'r' => some 13
  | 't' => some 9
  | _ => none

/-- What comes next inside a string. -/
def nextPiece : List UInt8 → Piece
  | [] => .broken .truncated
  | b :: rest =>
    if b = 34 then .finish rest
    else if b = 92 then
      match rest with
      | [] => .broken .truncated
      | e :: rest =>
        if e = 117 then codePiece rest
        else match escape? e with
          | some b => .bytes [b] rest
          | none => .broken .malformed
    else if b < 32 then .broken .malformed
    else .bytes [b] rest

/-- What is left of the text after a piece. -/
def Piece.rest : Piece → List UInt8
  | .finish rest => rest
  | .bytes _ rest => rest
  | .half _ rest => rest
  | .broken _ => []

theorem length_rest_trailingHalf? {bytes rest : List UInt8} {n : Nat}
    (h : trailingHalf? bytes = some (n, rest)) : rest.length ≤ bytes.length := by
  unfold trailingHalf? at h
  split at h
  · rename_i a b c d tail
    cases hq : hexQuad? a b c d with
    | none => simp [hq] at h
    | some q =>
      simp only [hq, Option.bind_eq_bind, Option.bind_some] at h
      split at h <;> simp_all
      omega
  · simp at h

theorem length_rest_codePiece (bytes : List UInt8) :
    (codePiece bytes).rest.length ≤ bytes.length := by
  unfold codePiece
  split
  · split
    · simp [Piece.rest]
    · split
      · split
        · rename_i h
          have := length_rest_trailingHalf? h
          simp only [Piece.rest, List.length_cons]; omega
        · simp only [Piece.rest, List.length_cons]; omega
      · split <;> simp only [Piece.rest, List.length_cons] <;> omega
  · simp [Piece.rest]

/-- Every piece takes a byte at least. -/
theorem length_rest_nextPiece (b : UInt8) (bytes : List UInt8) :
    (nextPiece (b :: bytes)).rest.length ≤ bytes.length := by
  simp only [nextPiece]
  split
  · simp [Piece.rest]
  · split
    · cases bytes with
      | nil => simp [Piece.rest]
      | cons e rest =>
        have := length_rest_codePiece rest
        simp only [List.length_cons]
        split
        · omega
        · split <;> simp [Piece.rest]
    · split <;> simp [Piece.rest]

/-- A string with an end, given its bytes in reverse order and the fault of its first half pair. -/
def closeString (done : List UInt8) : Option Fault → Lexeme String
  | some fault => .ofValue (.error fault)
  | none =>
    match ofBytes? done.reverse with
    | some s => .sound s
    | none => .ofValue (.error .malformed)

/-- The rest of a string, given the bytes before it in reverse order and the fault of the first half
pair among them. -/
def stringFrom (done : List UInt8) (fault : Option Fault) (bytes : List UInt8) :
    Lexeme String × List UInt8 :=
  match _h : nextPiece bytes with
  | .finish rest => (closeString done fault, rest)
  | .bytes copied rest => stringFrom (copied.reverse ++ done) fault rest
  | .half later rest => stringFrom done (fault <|> some later) rest
  | .broken later => (.broken (fault.getD later) later, [])
termination_by bytes.length
decreasing_by
  all_goals
    cases bytes with
    | nil => simp [nextPiece] at _h
    | cons b bytes =>
      have := length_rest_nextPiece b bytes
      rw [_h] at this
      simp only [Piece.rest, List.length_cons] at this ⊢
      omega

/-- A string ends no earlier than it begins. -/
theorem length_rest_stringFrom (done : List UInt8) (fault : Option Fault) (bytes : List UInt8) :
    (stringFrom done fault bytes).2.length ≤ bytes.length := by
  have shorter {bytes : List UInt8} {p : Piece} (h : nextPiece bytes = p) :
      p.rest.length ≤ bytes.length := by
    cases bytes with
    | nil => simp [← h, nextPiece, Piece.rest]
    | cons b bytes =>
      have := length_rest_nextPiece b bytes
      rw [h] at this
      simp only [List.length_cons]; omega
  fun_induction stringFrom done fault bytes with
  | case1 _ _ _ _ h => exact shorter h
  | case2 _ _ _ _ _ h ih => exact Nat.le_trans ih (shorter h)
  | case3 _ _ _ _ _ h ih => exact Nat.le_trans ih (shorter h)
  | case4 => simp

end Packaging.Json
