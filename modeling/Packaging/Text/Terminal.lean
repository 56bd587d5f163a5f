import Packaging.Text.Hex

/-! # Texts on a terminal

Some controls steer a terminal when they are printed. In what is shown there they are written as
their codes, so that a text cannot do more than be read; all other characters stay. -/

namespace Packaging.Text

/-- The steering controls of ASCII: bell, backspace, form feed, escape and delete. -/
def steeringControls : List Char := ['\x07', '\x08', '\x0c', '\x1b', '\x7f']

/-- A character as it is shown on a terminal. -/
def terminalChar (c : Char) : List Char :=
  if steeringControls.contains c then ['\\', 'x'] ++ Hex.encodeByte c.toUInt8
  else if 0x80 ≤ c.toNat && c.toNat < 0xa0 then ['\\', 'u', '{'] ++ Hex.ofNat c.toNat ++ ['}']
  else [c]

/-- A text as it is shown on a terminal. -/
def onTerminal (s : String) : String := String.ofList (s.toList.flatMap terminalChar)

example : onTerminal "a\x1b\x7f\u0085\né" = "a\\x1b\\x7f\\u\x7b85\x7d\né" := by decide +kernel

/-- Nothing that is shown for a character steers a terminal. -/
theorem any_terminalChar (c : Char) : (terminalChar c).any steeringControls.contains = false := by
  have codes : ∀ n < 0x20, (Hex.ofNat (0x80 + n)).any steeringControls.contains = false := by
    decide +kernel
  have frame : ['\\', 'u', '{', '}'].all (!steeringControls.contains ·) := by decide
  unfold terminalChar
  split
  · next hc =>
    simp only [steeringControls, List.contains_cons, List.contains_nil, Bool.or_eq_true,
      beq_iff_eq, Bool.false_eq_true, or_false] at hc
    rcases hc with rfl | rfl | rfl | rfl | rfl <;> decide +kernel
  · next hc =>
    split
    · next hn =>
      simp only [Bool.and_eq_true, decide_eq_true_eq] at hn
      have h := codes (c.toNat - 0x80) (by omega)
      rw [show 0x80 + (c.toNat - 0x80) = c.toNat by omega] at h
      simp_all
    · simpa using hc

/-- Nothing that is shown of a text steers a terminal. -/
theorem any_onTerminal (s : String) :
    (onTerminal s).toList.any steeringControls.contains = false := by
  simp only [onTerminal, String.toList_ofList, List.any_flatMap, List.any_eq_false]
  exact fun c _ => by simp [any_terminalChar c]

end Packaging.Text
