import Packaging.Text.Uppercase.Table

/-! # Upper-casing a text

Each character is replaced by its upper case, which may be several characters: `ß` gives `SS`. -/

namespace Packaging.Text

/-- The upper case of a character. -/
def upperChar (c : Char) : List Char :=
  if c.toNat < 0x80 then [c.toUpper]
  else
    match caseExpansions.lookup c.toNat with
    | some codes => codes.map Char.ofNat
    | none => [(moveBy? caseRuns c).getD c]

/-- The upper case of a text, character by character. -/
def upper (s : String) : String := String.ofList (s.toList.flatMap upperChar)

example : upper "linux-arm64 ß ǆ ſ ﬁ é" = "LINUX-ARM64 SS Ǆ S FI É" := by decide +kernel

end Packaging.Text
