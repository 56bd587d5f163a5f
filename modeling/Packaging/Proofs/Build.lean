import Packaging.Build
import Packaging.Proofs.FileSystem.Names
import Packaging.Proofs.Text.Utf8

/-!
# Names of packages

A package is named after a front of a commit's hash (`shortCommit_cases`), which is kept as it is
when it is cut again (`shortCommit_shortCommit`). The name of a package begins with a letter of its own and ends with the extension of an archive, so
it is never the name of a sidecar (`tarballName_ne_sidecar`), and it is a plain name unless it has a
slash (`plainName_tarballName`).
-/

namespace Packaging

open Text

/-! ## Short commits -/

/-- **What is kept of a hash**: its front of seven bytes, or all of it if it has no such front. -/
theorem shortCommit_cases (commit : String) :
    ((shortCommit commit).toList <+: commit.toList ∧ (bytesOf (shortCommit commit)).length = 7) ∨
    shortCommit commit = commit ∧
      ∀ front, front <+: commit.toList → (bytesOfChars front).length ≠ 7 := by
  rw [bytesOf_eq, shortCommit]
  cases h : takeBytes? shortCommitSize commit.toList with
  | some front =>
    rw [String.toList_ofList]
    exact .inl (takeBytes?_eq_some_iff.1 h)
  | none =>
    refine .inr ⟨rfl, fun front hfront hsize => ?_⟩
    cases h.symm.trans (takeBytes?_eq_some_iff.2 ⟨hfront, hsize⟩)

theorem shortCommit_isPrefix (commit : String) :
    (shortCommit commit).toList <+: commit.toList := by
  rcases shortCommit_cases commit with ⟨hkept, -⟩ | ⟨hall, -⟩
  · exact hkept
  · exact hall.symm ▸ List.prefix_refl commit.toList

/-- **What was kept of a hash is kept again.** -/
theorem shortCommit_shortCommit (commit : String) :
    shortCommit (shortCommit commit) = shortCommit commit := by
  rcases shortCommit_cases commit with ⟨-, hsize⟩ | ⟨hall, -⟩
  · rw [bytesOf_eq] at hsize
    have hfront : takeBytes? shortCommitSize (shortCommit commit).toList =
        some (shortCommit commit).toList :=
      takeBytes?_eq_some_iff.2 ⟨List.prefix_refl _, hsize⟩
    rw [shortCommit, hfront]
    exact String.ofList_toList
  · rw [hall, hall]

/-! ## File names -/

section FileNames

open Packaging.Path

variable {id version : String}

theorem toList_tarballName : ∃ middle, (tarballName id version).toList =
    't' :: 'i' :: 'l' :: middle ++ (archiveExtension (packagedName id)).toList := by
  refine ⟨"edb-".toList ++ (packagedName id).toList ++ '-' :: version.toList ++ ['.'], ?_⟩
  simp only [tarballName, packageStem, String.toList_append, List.append_assoc, List.cons_append]
  rfl

theorem plainName_tarballName (h : '/' ∉ (tarballName id version).toList) :
    PlainName (tarballName id version) := by
  refine ⟨h, isName_of_length ?_⟩
  obtain ⟨middle, hm⟩ := @toList_tarballName id version
  rw [hm]
  simp

theorem head?_tarballName : (tarballName id version).toList.head? = some 't' := by
  obtain ⟨middle, hm⟩ := @toList_tarballName id version
  rw [hm]
  rfl

theorem archiveExtension_cases (packaged : String) :
    (archiveExtension packaged = "zip" ∧
        (archiveExtension packaged).toList.getLast? = some 'p') ∨
      (archiveExtension packaged = "tar.gz" ∧
        (archiveExtension packaged).toList.getLast? = some 'z') := by
  rw [archiveExtension]
  split
  · exact .inl ⟨rfl, by decide⟩
  · exact .inr ⟨rfl, by decide⟩

theorem getLast?_tarballName : (tarballName id version).toList.getLast? ≠ some '6' := by
  obtain ⟨middle, hm⟩ := @toList_tarballName id version
  rw [hm, List.getLast?_append]
  rcases archiveExtension_cases (packagedName id) with ⟨-, hlast⟩ | ⟨-, hlast⟩
  · rw [hlast, Option.some_or]; decide
  · rw [hlast, Option.some_or]; decide

theorem sidecar_injective {p q : String} (h : Path.sidecar p = Path.sidecar q) : p = q := by
  have hlist := congrArg String.toList h
  simp only [Path.sidecar, String.toList_append, List.append_assoc] at hlist
  exact String.toList_inj.1 (List.append_cancel_right hlist)

/-- No package has the name of a sidecar. -/
theorem tarballName_ne_sidecar (p : String) : tarballName id version ≠ Path.sidecar p := by
  intro h
  have hlast := getLast?_sidecar p
  rw [← h] at hlast
  exact getLast?_tarballName hlast

end FileNames

end Packaging
