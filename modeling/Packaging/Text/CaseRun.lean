/-! # Runs of letters

The letters of a script mostly change their case by the same step, or every other one does. -/

namespace Packaging.Text

/-- Characters at equal distances that move by one offset when their form changes. -/
structure CaseRun where
  first : Nat
  last : Nat
  step : Nat
  offset : Int

namespace CaseRun

/-- Whether a run has a code point. -/
def contains (run : CaseRun) (n : Nat) : Bool :=
  run.first ≤ n && n ≤ run.last && (n - run.first) % run.step == 0

/-- Where a character of a run moves. -/
def move (run : CaseRun) (c : Char) : Char := Char.ofNat (c.toNat + run.offset).toNat

end CaseRun

/-- Where a character moves by the run that has it, if any. -/
def moveBy? (runs : List CaseRun) (c : Char) : Option Char :=
  (runs.find? (·.contains c.toNat)).map (·.move c)

end Packaging.Text
