/-! # The order of bytes

Texts are sorted by their UTF-8 bytes, the shorter of two that agree coming first. -/

namespace Packaging.Text

/-- The UTF-8 bytes of a text. -/
def bytesOf (s : String) : List UInt8 := s.toUTF8.data.toList

/-- Whether `s` sorts no later than `t` by UTF-8 bytes. -/
def byteLE (s t : String) : Bool := decide (bytesOf s ≤ bytesOf t)

/-- A sorted list with one more text, which comes before those that sort no earlier. -/
def insertByBytes (s : String) : List String → List String
  | [] => [s]
  | t :: texts => if byteLE s t then s :: t :: texts else t :: insertByBytes s texts

/-- The texts of a list in ascending order of bytes, each as often as it occurs. -/
def sortByBytes (texts : List String) : List String := texts.foldr insertByBytes []

theorem insertByBytes_perm (s : String) (texts : List String) :
    (insertByBytes s texts).Perm (s :: texts) := by
  induction texts with
  | nil => exact .refl _
  | cons t texts ih =>
    unfold insertByBytes
    split
    · exact .refl _
    · exact (ih.cons t).trans (.swap s t texts)

/-- Sorting changes nothing but the order. -/
theorem sortByBytes_perm (texts : List String) : (sortByBytes texts).Perm texts := by
  induction texts with
  | nil => exact .refl _
  | cons s texts ih => exact (insertByBytes_perm s _).trans (ih.cons s)

/-- The text that bytes spell, if they are valid UTF-8. -/
def ofBytes? (bytes : List UInt8) : Option String := String.fromUTF8? ⟨bytes.toArray⟩

/-- Every text is read back from its bytes. -/
theorem ofBytes?_bytesOf (s : String) : ofBytes? (bytesOf s) = some s := by
  simp only [ofBytes?, bytesOf, String.fromUTF8?, String.toUTF8_eq_toByteArray,
    Array.toArray_toList]
  rw [dif_pos s.isValidUTF8]
  rfl

end Packaging.Text
