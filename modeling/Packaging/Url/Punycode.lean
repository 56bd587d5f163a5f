/-! # Punycode

A name is written in ASCII as its ASCII characters, in order, and a list of numbers that say what
other characters stand between them, and where. The characters come in ascending order, and each
number tells how many steps, through places and code points, lead from one to the next. Numbers are
written with digits of base 36, the lowest first; a digit below a threshold ends a number, and the
thresholds follow the size of the numbers before. -/

namespace Packaging.Punycode

/-- The digit of a value below 36. -/
def digit (n : Nat) : Char :=
  if n < 26 then Char.ofNat ('a'.toNat + n) else Char.ofNat ('0'.toNat + (n - 26))

/-- The value of a digit; letters may be of either case. -/
def value? (c : Char) : Option Nat :=
  if c.isDigit then some (c.toNat - '0'.toNat + 26)
  else if c.isAlpha then some (c.toLower.toNat - 'a'.toNat)
  else none

/-- The digit of a value reads as that value. -/
theorem value?_digit : ∀ {n : Nat}, n < 36 → value? (digit n) = some n := by decide

/-- The threshold of the digit at a place, given the bias. Places count by 36, from 36 on. -/
def threshold (bias place : Nat) : Nat := max 1 (min 26 (place - bias))

/-- The thresholds lie between one and 26. -/
theorem threshold_bounds (bias place : Nat) :
    1 ≤ threshold bias place ∧ threshold bias place ≤ 26 := by
  unfold threshold; omega

/-- The bias that a size is brought to, by as many steps as are needed. -/
def biasOf (size steps : Nat) : Nat :=
  if 455 < size then biasOf (size / 35) (steps + 1) else 36 * steps + 36 * size / (size + 38)
termination_by size
decreasing_by omega

/-- The bias after a number, given how many characters are placed with it. -/
def nextBias (number count : Nat) (isFirst : Bool) : Nat :=
  let size := if isFirst then number / 700 else number / 2
  biasOf (size + size / count) 0

/-! ## Writing -/

/-- The digits of a number. -/
def writeNumber (bias place number : Nat) : List Char :=
  let t := threshold bias place
  if number < t then [digit number]
  else
    digit (t + (number - t) % (36 - t)) ::
      writeNumber bias (place + 36) ((number - t) / (36 - t))
termination_by number
decreasing_by
  have h := threshold_bounds bias place
  have := Nat.div_le_self (number - threshold bias place) (36 - threshold bias place)
  omega

/-- What is written so far. -/
structure Written where
  digits : List Char := []
  /-- The steps since the last number. -/
  steps : Nat := 0
  bias : Nat := 72
  /-- How many characters are placed. -/
  count : Nat

/-- Goes past one character of the name, looking for those with one code point. -/
def Written.pass (basic code : Nat) (w : Written) (c : Char) : Written :=
  if c.toNat < code then { w with steps := w.steps + 1 }
  else if c.toNat = code then
    { digits := w.digits ++ writeNumber w.bias 36 w.steps, steps := 0
      bias := nextBias w.steps (w.count + 1) (w.count == basic), count := w.count + 1 }
  else w

/-- Goes through the name for each code point in turn, given the least one not yet looked for. -/
def Written.passes (cs : List Char) (basic : Nat) : Nat → List Nat → Written → Written
  | _, [], w => w
  | least, code :: codes, w =>
    let w := { w with steps := w.steps + (code - least) * (w.count + 1) }
    let w := cs.foldl (Written.pass basic code) w
    Written.passes cs basic (code + 1) codes { w with steps := w.steps + 1 }

/-- A number put into its place among others in ascending order, unless it is there. -/
def insertCode (n : Nat) : List Nat → List Nat
  | [] => [n]
  | m :: ms => if n < m then n :: m :: ms else if n = m then m :: ms else m :: insertCode n ms

/-- A name in ASCII. -/
def write (cs : List Char) : List Char :=
  let basic := cs.filter fun c => c.toNat < 0x80
  let codes := ((cs.filter fun c => 0x80 ≤ c.toNat).map Char.toNat).foldr insertCode []
  let w := Written.passes cs basic.length 0x80 codes { count := basic.length }
  basic ++ (if basic = [] then [] else ['-']) ++ w.digits

/-! ## Reading -/

/-- Reads a number: the number and the rest. -/
def readNumber (bias : Nat) : Nat → Nat → Nat → List Char → Option (Nat × List Char)
  | _, _, _, [] => none
  | place, factor, number, c :: cs => do
    let d ← value? c
    let t := threshold bias place
    if d < t then return (number + d * factor, cs)
    else readNumber bias (place + 36) (factor * (36 - t)) (number + d * factor) cs

/-- Reading a number takes at least one digit. -/
theorem length_rest_readNumber {bias place factor number n : Nat} {cs rest : List Char}
    (h : readNumber bias place factor number cs = some (n, rest)) : rest.length < cs.length := by
  induction cs generalizing place factor number with
  | nil => simp [readNumber] at h
  | cons c cs ih =>
    simp only [readNumber, Option.bind_eq_bind, Option.bind_eq_some_iff] at h
    obtain ⟨d, _, h⟩ := h
    split at h
    · simp_all
    · exact Nat.lt_succ_of_lt (ih h)

/-- Puts one character after the other into its place, given the name so far, the code point and
the place that the steps go on from, and the bias. -/
def fill (name : List Char) (code start bias : Nat) (isFirst : Bool) (cs : List Char) :
    Option (List Char) :=
  match cs with
  | [] => some name
  | c :: cs =>
    match h : readNumber bias 36 1 0 (c :: cs) with
    | none => none
    | some (steps, rest) =>
      let count := name.length + 1
      let code := code + (start + steps) / count
      let start := (start + steps) % count
      if code.isValidChar then
        fill (name.insertIdx start (Char.ofNat code)) code (start + 1)
          (nextBias steps count isFirst) false rest
      else none
termination_by cs.length
decreasing_by exact length_rest_readNumber h

/-- The name that ASCII characters are written for, if any. A dash stands between the characters of
the name and the digits only if there are such characters. -/
def read? (cs : List Char) : Option (List Char) :=
  let digits := (cs.reverse.takeWhile (· ≠ '-')).reverse
  match cs.length - digits.length with
  | 0 => fill [] 0x80 0 72 true digits
  | 1 => none
  | n + 1 => fill (cs.take n) 0x80 0 72 true digits

example : String.ofList (write "bücher".toList) = "bcher-kva" ∧
    (read? "bcher-kva".toList).map String.ofList = some "bücher" ∧
    read? "-5c0j".toList = none := by decide +kernel

end Packaging.Punycode
