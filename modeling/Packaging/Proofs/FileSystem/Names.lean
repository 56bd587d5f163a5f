import Packaging.Proofs.FileSystem.Places
import Packaging.Proofs.Text.Pieces

/-!
# Names inside directories

A path made of a directory and a plain name leads to that name in the directory, whatever the
directory's path looks like.

* `partsOf_join`, `place_join`: the parts and the place of such a path; `place_join_eq` says where
  any path leads that is seen from a directory.
* `slot?_join_eq_none`: what has no slash and is no plain name leads to no file.
* `fileName?_join`, `sidecar_join`: the name of the file, and the path of its sidecar.
-/

namespace Packaging

open FileSystem Text

namespace Path

/-- A text that is the name of a file in every directory. -/
structure PlainName (name : String) : Prop where
  noSlash : '/' ∉ name.toList
  isName : isName name.toList = true

variable {dir name : String}

theorem PlainName.ne_empty (h : PlainName name) : name ≠ "" := by
  rintro rfl
  exact absurd h.isName (by decide)

theorem eq_of_not_isName {part : List Char} (h : Path.isName part = false) :
    part = [] ∨ part = ['.'] ∨ part = ['.', '.'] := by
  simp only [Path.isName, Bool.and_eq_false_iff, decide_eq_false_iff_not, ne_eq,
    Classical.not_not] at h
  exact or_assoc.1 h

theorem isAbsolute_eq_false (h : '/' ∉ name.toList) : isAbsolute name = false := by
  rw [isAbsolute, decide_eq_false_iff_not]
  exact fun hc => h (List.mem_of_mem_head? hc)

theorem join_inj {p q : String} (hp : isAbsolute p = false) (hq : isAbsolute q = false) :
    join dir p = join dir q ↔ p = q := by
  rw [join, join, hp, hq]
  simp only [Bool.false_eq_true, if_false]
  split <;> exact String.append_right_inj _

/-- A joined path is the directory, a slash if it needs one, and what is joined to it. -/
theorem toList_join (dir : String) (h : isAbsolute name = false) :
    (join dir name).toList = dir.toList ++ name.toList ∧
        (dir = "" ∨ ∃ front, dir.toList = front ++ ['/']) ∨
      (join dir name).toList = dir.toList ++ '/' :: name.toList ∧ dir ≠ "" := by
  rw [join, h]
  by_cases hdir : dir.isEmpty || dir.toList.getLast? = some '/'
  · left
    simp only [Bool.false_eq_true, if_false, hdir, if_true, String.toList_append, true_and]
    rcases (Bool.or_eq_true _ _).mp hdir with he | hs
    · exact .inl (String.isEmpty_iff.1 he)
    · obtain ⟨front, hfront⟩ := List.getLast?_eq_some_iff.1 (of_decide_eq_true hs)
      exact .inr ⟨front, hfront⟩
  · right
    simp only [Bool.false_eq_true, if_false, hdir, String.toList_append, List.append_assoc]
    refine ⟨rfl, ?_⟩
    rintro rfl
    exact hdir rfl

end Path

namespace FileSystem

variable {fs : FileSystem} {dir name : String}

/-- The parts of a path but for a slash at its end. -/
def innerParts (p : String) : List Part :=
  (splitAtMarks (· = '/') p.toList).filterMap partOf?

theorem getLast?_toList_join (h : '/' ∉ name.toList) (hne : name ≠ "") :
    (Path.join dir name).toList.getLast? ≠ some '/' := by
  have hlast : name.toList ≠ [] := fun hc => hne (String.toList_eq_nil_iff.1 hc)
  have hc : name.toList.getLast hlast ≠ '/' := fun hc => h (hc ▸ List.getLast_mem hlast)
  rcases Path.toList_join dir (Path.isAbsolute_eq_false h) with ⟨hj, -⟩ | ⟨hj, -⟩ <;>
    simp [hj, List.getLast?_append, List.getLast?_cons, List.getLast?_eq_some_getLast hlast, hc]

theorem innerParts_join (h : Path.isAbsolute name = false) :
    innerParts (Path.join dir name) = innerParts dir ++ innerParts name := by
  have hmark : ∀ cs ds : List Char, splitAtMarks (· = '/') (cs ++ '/' :: ds) =
      splitAtMarks (· = '/') cs ++ splitAtMarks (· = '/') ds := splitAtMarks_append rfl
  rcases Path.toList_join dir h with ⟨hj, rfl | ⟨front, hd⟩⟩ | ⟨hj, -⟩
  · rw [innerParts, hj]
    rfl
  · rw [innerParts, innerParts, innerParts, hj, hd, List.append_assoc, List.singleton_append, hmark,
      hmark, List.filterMap_append, List.filterMap_append]
    simp [splitAtMarks, partOf?]
  · rw [innerParts, innerParts, innerParts, hj, hmark, List.filterMap_append]

theorem innerParts_eq (h : '/' ∉ name.toList) :
    innerParts name = (partOf? name.toList).toList := by
  have hname : splitAtMarks (· = '/') name.toList = [name.toList] :=
    splitAtMarks_of_forall fun c hc => decide_eq_false fun e => h (e ▸ hc)
  rw [innerParts, hname]
  cases hp : partOf? name.toList <;> simp [hp]

theorem partsOf_join_eq (h : '/' ∉ name.toList) (hne : name ≠ "") :
    partsOf (Path.join dir name) = innerParts dir ++ (partOf? name.toList).toList := by
  rw [partsOf, if_neg (getLast?_toList_join h hne), List.append_nil, ← innerParts_eq h]
  exact innerParts_join (Path.isAbsolute_eq_false h)

theorem partOf?_plain (h : Path.PlainName name) : partOf? name.toList = some (.name name) := by
  have hname := h.isName
  unfold partOf?
  split <;> simp_all [Path.isName]

/-- The parts of a path that ends in a plain name. -/
theorem partsOf_join (h : Path.PlainName name) :
    partsOf (Path.join dir name) = innerParts dir ++ [.name name] := by
  rw [partsOf_join_eq h.noSlash h.ne_empty, partOf?_plain h]
  rfl

theorem endsInName_join (dir : String) (h : Path.PlainName name) :
    EndsInName (partsOf (Path.join dir name)) := by
  rw [partsOf_join h]
  exact ⟨name, List.getLast?_concat⟩

theorem start_join (h : Path.isAbsolute name = false) :
    fs.start (Path.join dir name) = fs.start dir := by
  have habs : Path.isAbsolute (Path.join dir name) = Path.isAbsolute dir := by
    by_cases hdir : dir = ""
    · subst hdir
      have hjoin : Path.join "" name = name := by
        rw [Path.join, h]
        exact String.empty_append
      rw [hjoin, h]
      rfl
    · have hne : dir.toList ≠ [] := fun hc => hdir (String.toList_eq_nil_iff.1 hc)
      obtain ⟨c, cs, hcs⟩ := List.exists_cons_of_ne_nil hne
      rcases Path.toList_join dir h with ⟨hj, -⟩ | ⟨hj, -⟩ <;>
        rw [Path.isAbsolute, Path.isAbsolute, hj, hcs] <;> rfl
  rw [start, start, habs]

theorem placeFrom_append (dir : Location) (front back : List Part) :
    placeFrom dir (front ++ back) = placeFrom (placeFrom dir front) back := by
  induction front generalizing dir with
  | nil => rfl
  | cons part front ih => cases part <;> exact ih _

theorem place_eq_innerParts (p : String) : fs.place p = placeFrom (fs.start p) (innerParts p) := by
  rw [place, partsOf]
  split
  · exact placeFrom_append _ _ _
  · rw [List.append_nil]; rfl

/-- A path that does not begin at the root leads from the place of the directory it is joined to. -/
theorem place_join_eq (h : Path.isAbsolute name = false) :
    fs.place (Path.join dir name) = placeFrom (fs.place dir) (innerParts name) := by
  rw [place_eq_innerParts, place_eq_innerParts dir, start_join h, innerParts_join h,
    placeFrom_append]

/-- **A name in a directory leads to that name at the directory's place.** -/
theorem place_join (h : Path.PlainName name) :
    fs.place (Path.join dir name) = name :: fs.place dir := by
  rw [place_join_eq (Path.isAbsolute_eq_false h.noSlash), innerParts_eq h.noSlash, partOf?_plain h]
  rfl

/-- Filling the slot of a name leaves other names alone, and the name in other places. -/
theorem content?_set_join {dir' name' : String} {loc : Location} (hfs : fs.LinkFree)
    (h : Path.PlainName name) (h' : Path.PlainName name')
    (hloc : fs.slot? (Path.join dir' name') = some loc)
    (hne : name ≠ name' ∨ fs.place dir ≠ fs.place dir') (c : Content) :
    (fs.set loc (.file c)).content? (Path.join dir name) = fs.content? (Path.join dir name) := by
  rw [content?_set hfs hloc, if_neg]
  intro hs
  have hplace := (slot?_spec hfs hs).1.symm.trans (slot?_spec hfs hloc).1
  rw [place_join h, place_join h', List.cons.injEq] at hplace
  rcases hne with hne | hne
  · exact hne hplace.1
  · exact hne hplace.2

/-- Filling the slots of two names of a directory leaves other names alone, and all names in other
places. -/
theorem content?_set_set_join {dir' name₁ name₂ : String} {loc₁ loc₂ : Location}
    (hfs : fs.LinkFree) (h : Path.PlainName name) (h₁ : Path.PlainName name₁)
    (h₂ : Path.PlainName name₂) (hloc₁ : fs.slot? (Path.join dir' name₁) = some loc₁)
    (hloc₂ : fs.slot? (Path.join dir' name₂) = some loc₂)
    (hne : (name ≠ name₁ ∧ name ≠ name₂) ∨ fs.place dir ≠ fs.place dir') (c₁ c₂ : Content) :
    ((fs.set loc₁ (.file c₁)).set loc₂ (.file c₂)).content? (Path.join dir name) =
      fs.content? (Path.join dir name) := by
  have hfs₁ := linkFree_set_slot hfs hloc₁ c₁
  have hloc₂' : (fs.set loc₁ (.file c₁)).slot? (Path.join dir' name₂) = some loc₂ := by
    rw [slot?_set hfs hloc₁, hloc₂]
  rw [content?_set_join hfs₁ h h₂ hloc₂' (hne.imp (·.2) id)]
  exact content?_set_join hfs h h₁ hloc₁ (hne.imp (·.1) id) c₁

/-- A slot that was just filled. -/
theorem content?_set_self {loc : Location} {p : String} (hfs : fs.LinkFree)
    (hloc : fs.slot? p = some loc) (c : Content) : (fs.set loc (.file c)).content? p = some c := by
  rw [content?_set hfs hloc, if_pos hloc]

/-- What has no slash and is no plain name leads to no file, in whichever directory. -/
theorem slot?_join_eq_none (hfs : fs.LinkFree) (h : '/' ∉ name.toList)
    (hname : Path.isName name.toList = false) : fs.slot? (Path.join dir name) = none := by
  rw [Option.eq_none_iff_forall_ne_some]
  intro loc hloc
  obtain ⟨-, -, -, last, hlast⟩ := slot?_spec hfs hloc
  have hcases : name = "" ∨ partOf? name.toList = some .here ∨ partOf? name.toList = some .up := by
    rcases Path.eq_of_not_isName hname with hn | hn | hn
    · exact .inl (String.toList_eq_nil_iff.1 hn)
    · exact .inr (.inl (by rw [hn]; rfl))
    · exact .inr (.inr (by rw [hn]; rfl))
  rcases hcases with rfl | hpart | hpart
  · rcases Path.toList_join dir (Path.isAbsolute_eq_false h) with
      ⟨hj, rfl | ⟨front, hd⟩⟩ | ⟨hj, -⟩
    · cases hlast
    · have hs : (Path.join dir "").toList.getLast? = some '/' := by
        rw [hj, hd]; simp
      rw [partsOf, if_pos hs, List.getLast?_concat] at hlast
      cases hlast
    · have hs : (Path.join dir "").toList.getLast? = some '/' := by
        rw [hj]; exact List.getLast?_concat
      rw [partsOf, if_pos hs, List.getLast?_concat] at hlast
      cases hlast
  all_goals
    have hne : name ≠ "" := by rintro rfl; cases hpart
    rw [partsOf_join_eq h hne, hpart, Option.toList_some, List.getLast?_concat] at hlast
    cases hlast

end FileSystem

namespace Path

variable {dir name : String}

theorem isName_of_length {part : List Char} (h : 2 < part.length) : isName part = true := by
  rcases part with - | ⟨a, - | ⟨b, - | ⟨c, cs⟩⟩⟩
  · cases h
  · exact absurd h (by simp)
  · exact absurd h (by simp)
  · simp [isName]

theorem sidecar_eq (p : String) : sidecar p = p ++ ".sha256" := String.append_assoc

theorem plainName_sidecar (h : '/' ∉ name.toList) : PlainName (sidecar name) := by
  have hlist : (sidecar name).toList = name.toList ++ ".sha256".toList := by
    rw [sidecar_eq, String.toList_append]
  refine ⟨?_, ?_⟩
  · rw [hlist, List.mem_append]
    rintro (hc | hc)
    · exact h hc
    · exact absurd hc (by decide)
  · rw [hlist]
    apply isName_of_length
    rw [List.length_append]
    exact Nat.lt_add_left _ (by decide)

theorem PlainName.sidecar (h : PlainName name) : PlainName (sidecar name) :=
  plainName_sidecar h.noSlash

theorem sidecar_ne (p : String) : sidecar p ≠ p := by
  intro h
  have hlen := congrArg (fun s : String => s.toList.length) h
  simp [sidecar, sidecarExtension, String.toList_append] at hlen

theorem getLast?_sidecar (p : String) : (sidecar p).toList.getLast? = some '6' := by
  rw [sidecar, String.toList_append, List.getLast?_append]
  rfl

theorem isAbsolute_sidecar (p : String) : isAbsolute (sidecar p) = isAbsolute p := by
  rw [isAbsolute, isAbsolute, sidecar, String.toList_append, String.toList_append]
  cases p.toList <;> rfl

/-- Joining commutes with naming the sidecar. -/
theorem sidecar_join (dir p : String) : sidecar (join dir p) = join dir (sidecar p) := by
  simp only [join, isAbsolute_sidecar]
  split
  · rfl
  · split <;> simp only [sidecar, String.append_assoc]

theorem dropEnd_of_plain {cs rest : List Char} (h : '/' ∉ cs) (hname : isName cs.reverse = true) :
    dropEnd (cs ++ rest) = cs ++ rest := by
  cases cs with
  | nil => exact absurd hname (by decide)
  | cons c cs =>
    unfold dropEnd
    split
    · rename_i heq
      obtain ⟨rfl, -⟩ := List.cons.inj heq
      exact absurd List.mem_cons_self h
    · rename_i heq
      obtain ⟨rfl, htail⟩ := List.cons.inj heq
      cases cs with
      | nil => exact absurd hname (by decide)
      | cons d cs =>
        obtain ⟨rfl, -⟩ := List.cons.inj htail
        exact absurd (List.mem_cons_of_mem _ List.mem_cons_self) h
    · rfl

/-- What is joined to a directory is the last part, if it is not dropped from the end. -/
theorem splitLast_join_eq (dir : String) (hslash : '/' ∉ name.toList)
    (hkept : ∀ rest, dropEnd (name.toList.reverse ++ rest) = name.toList.reverse ++ rest) :
    ∃ front, splitLast (join dir name) = (front, name.toList) ∧
      (join dir name).toList = front ++ name.toList := by
  obtain ⟨rest, hrev, hrest⟩ : ∃ rest,
      (join dir name).toList.reverse = name.toList.reverse ++ rest ∧
      rest.takeWhile (· ≠ '/') = [] := by
    rcases toList_join dir (isAbsolute_eq_false hslash) with ⟨hj, rfl | ⟨front, hd⟩⟩ | ⟨hj, -⟩
    · exact ⟨[], by rw [hj, List.reverse_append]; rfl, rfl⟩
    · exact ⟨'/' :: front.reverse, by rw [hj, hd]; simp, rfl⟩
    · exact ⟨'/' :: dir.toList.reverse, by rw [hj]; simp, rfl⟩
  have hnoSlash : '/' ∉ name.toList.reverse := fun hc => hslash (List.mem_reverse.1 hc)
  have hall : ∀ c ∈ name.toList.reverse, decide (c ≠ '/') = true := fun c hc =>
    decide_eq_true fun (e : c = '/') => hnoSlash (e ▸ hc)
  have hdrop : rest.dropWhile (· ≠ '/') = rest := by
    have happend := List.takeWhile_append_dropWhile (p := fun c => decide (c ≠ '/')) (l := rest)
    rwa [hrest, List.nil_append] at happend
  refine ⟨rest.reverse, ?_, ?_⟩
  · rw [splitLast, hrev, hkept]
    rw [List.dropWhile_append_of_pos hall, List.takeWhile_append_of_pos hall, hrest, hdrop,
      List.append_nil, List.reverse_reverse]
  · rw [← List.reverse_reverse (join dir name).toList, hrev, List.reverse_append,
      List.reverse_reverse]

/-- The last part of a path with a plain name at its end is that name. -/
theorem splitLast_join (dir : String) (h : PlainName name) :
    ∃ front, splitLast (join dir name) = (front, name.toList) ∧
      (join dir name).toList = front ++ name.toList := by
  refine splitLast_join_eq dir h.noSlash fun rest => dropEnd_of_plain ?_ ?_
  · exact fun hc => h.noSlash (List.mem_reverse.1 hc)
  · rw [List.reverse_reverse]
    exact h.isName

/-- The file that a path with a plain name at its end leads to has that name. -/
theorem fileName?_join (h : PlainName name) : fileName? (join dir name) = some name := by
  obtain ⟨front, hsplit, -⟩ := splitLast_join dir h
  rw [fileName?, hsplit, if_pos h.isName, String.ofList_toList]

end Path

end Packaging
