import Packaging.Manifest
import Packaging.Proofs.Text.Pieces
import Packaging.Proofs.Text.Sorting

/-!
# The text of a manifest

* `render_eq`: a rendered manifest is the lines of its rows in ascending order of bytes, each with
  its end.
* `render_canonical`: so it has each line as often as the rows have it, and the order of the rows
  makes no difference.
* `readsBack_render_iff`: its rows are read back from the text exactly when no field has a comma or
  a line end, as fields are written as they are.
-/

namespace Packaging

open Text

theorem intercalate_append_empty (sep : String) (texts : List String) :
    sep.intercalate (texts ++ [""]) = String.join (texts.map (· ++ sep)) := by
  induction texts with
  | nil => simp
  | cons t texts ih =>
    have hne : texts ++ [""] ≠ [] := by simp
    rw [List.cons_append, String.intercalate_cons_of_ne_nil hne, ih, List.map_cons,
      String.join_cons]

namespace Manifest

variable (m : Manifest)

/-- **A manifest is the lines of its rows, sorted, each with its end.** -/
theorem render_eq : m.render = String.join ((sortByBytes (m.rows.map Row.csv)).map (· ++ "\n")) :=
  intercalate_append_empty _ _

/-- The text of a manifest depends on the lines of its rows, and not on their order. -/
theorem render_eq_of_perm {m m' : Manifest}
    (h : (m.rows.map Row.csv).Perm (m'.rows.map Row.csv)) : m.render = m'.render := by
  rw [render, render, sortByBytes_eq_of_perm h]

/-- **The text of a manifest is canonical.** It is the lines of the rows, each as often as among the
rows and each with its end, in the order of their bytes. Without rows it is empty, and rows in
another order have the same text. -/
theorem render_canonical (m : Manifest) :
    (∃ lines : List String, m.render = String.join (lines.map (· ++ "\n")) ∧
      lines.Perm (m.rows.map Row.csv) ∧ lines.Pairwise (bytesOf · ≤ bytesOf ·)) ∧
    render {} = "" ∧
    ∀ m' : Manifest, m.rows.Perm m'.rows → m.render = m'.render := by
  refine ⟨⟨sortByBytes (m.rows.map Row.csv), render_eq m, sortByBytes_perm _, ?_⟩, rfl,
    fun m' h => render_eq_of_perm (h.map Row.csv)⟩
  exact (sortByBytes_pairwise _).imp fun {s t} hle => byteLE_iff.1 hle

/-! ## Reading rows back -/

/-- The fields of a row, in the order of its line. -/
def Row.fields (r : Row) : List String := [r.platform, r.version, r.linkage, r.url, r.digest.text]

/-- The fields of a line. -/
def fieldsOf (line : List Char) : List (List Char) := splitAtMarks (· = ',') line

/-- A text is read back as rows: between its line ends it has a line of five fields for each row,
and nothing after the last, and the fields are those of the rows. -/
def ReadsBack (text : String) (rows : List Row) : Prop :=
  ∃ lines, splitAtMarks (· = '\n') text.toList = lines ++ [[]] ∧ lines.length = rows.length ∧
    (∀ line ∈ lines, (fieldsOf line).length = 5) ∧
    (lines.map fieldsOf).Perm (rows.map fun r => r.fields.map String.toList)

/-- A text that can be a field: it has neither a comma nor a line end. -/
def IsField (s : String) : Prop := ',' ∉ s.toList ∧ '\n' ∉ s.toList

variable {m} {r : Row} {rows : List Row}

theorem Row.toList_csv (r : Row) : r.csv.toList = [','].intercalate (r.fields.map String.toList) :=
  String.toList_intercalate

theorem Row.fieldsOf_csv (r : Row) :
    fieldsOf r.csv.toList = (r.fields.map String.toList).flatMap (splitAtMarks (· = ',')) := by
  rw [Row.toList_csv]
  exact splitAtMarks_intercalate (List.cons_ne_nil _ _)

theorem Row.length_fieldsOf_csv_iff :
    (fieldsOf r.csv.toList).length = 5 ↔ ∀ f ∈ r.fields, ',' ∉ f.toList := by
  rw [Row.fieldsOf_csv, ← List.forall_mem_map (f := String.toList) (P := (',' ∉ ·))]
  exact length_flatMap_splitAtMarks_iff

theorem Row.fieldsOf_csv_of_forall (h : ∀ f ∈ r.fields, ',' ∉ f.toList) :
    fieldsOf r.csv.toList = r.fields.map String.toList := by
  rw [Row.fieldsOf_csv]
  exact flatMap_splitAtMarks_of_forall (List.forall_mem_map.2 h)

/-- A line has the line ends of its fields. -/
theorem Row.newline_mem_csv_iff : '\n' ∈ r.csv.toList ↔ ∃ f ∈ r.fields, '\n' ∈ f.toList := by
  simp [Row.csv, Row.fields]

/-- The lines of a manifest are those that its rows have. -/
theorem lines_render (m : Manifest) : splitAtMarks (· = '\n') m.render.toList =
    ((sortByBytes (m.rows.map Row.csv)).map String.toList).flatMap (splitAtMarks (· = '\n')) ++
      [[]] := by
  rw [render, String.toList_intercalate]
  refine (splitAtMarks_intercalate (by simp)).trans ?_
  rw [List.map_append, List.flatMap_append]
  rfl

theorem forall_mem_sorted_csv {P : List Char → Prop} :
    (∀ line ∈ (sortByBytes (rows.map Row.csv)).map String.toList, P line) ↔
      ∀ r ∈ rows, P r.csv.toList := by
  rw [List.forall_mem_map]
  simp only [(sortByBytes_perm _).mem_iff, List.forall_mem_map]

/-- **The rows of a manifest are read back exactly when their fields have no marks.** -/
theorem readsBack_render_iff :
    ReadsBack m.render m.rows ↔ ∀ r ∈ m.rows, ∀ f ∈ r.fields, IsField f := by
  have hlength : ((sortByBytes (m.rows.map Row.csv)).map String.toList).length = m.rows.length := by
    rw [List.length_map, (sortByBytes_perm _).length_eq, List.length_map]
  constructor
  · rintro ⟨lines, hlines, hcount, hfive, -⟩
    rw [lines_render, List.append_left_inj] at hlines
    subst hlines
    rw [← hlength] at hcount
    have hends := length_flatMap_splitAtMarks_iff.1 hcount
    rw [flatMap_splitAtMarks_of_forall hends] at hfive
    intro r hr f hf
    refine ⟨?_, fun hend => ?_⟩
    · exact Row.length_fieldsOf_csv_iff.1 (forall_mem_sorted_csv.1 hfive r hr) f hf
    · exact forall_mem_sorted_csv.1 hends r hr (Row.newline_mem_csv_iff.2 ⟨f, hf, hend⟩)
  · intro h
    have hends : ∀ line ∈ (sortByBytes (m.rows.map Row.csv)).map String.toList, '\n' ∉ line := by
      refine forall_mem_sorted_csv.2 fun r hr hend => ?_
      obtain ⟨f, hf, hend⟩ := Row.newline_mem_csv_iff.1 hend
      exact (h r hr f hf).2 hend
    refine ⟨_, lines_render m, ?_⟩
    rw [flatMap_splitAtMarks_of_forall hends]
    refine ⟨hlength, forall_mem_sorted_csv.2 fun r hr => ?_, ?_⟩
    · exact Row.length_fieldsOf_csv_iff.2 fun f hf => (h r hr f hf).1
    · refine (((sortByBytes_perm _).map String.toList).map fieldsOf).trans (.of_eq ?_)
      rw [List.map_map, List.map_map]
      exact List.map_congr_left fun r hr =>
        Row.fieldsOf_csv_of_forall fun f hf => (h r hr f hf).1

end Manifest

end Packaging
