import Packaging.Digest
import Packaging.Proofs.Text.Hex

/-!
# Digests in sidecars

* `firstToken_eq_iff`: the first token of a text is what stands between the blanks that it begins
  with and the next one.
* `ofSidecar_sidecarLine`: a sidecar is read as the digest that it was written for.
* `ofSidecar_ok_iff`: which digest a sidecar records.
* `exists_toList_text_iff`: how digests are spelled.
* `ofSidecar_error_iff`: why a sidecar records none.
* `ofSidecar_by_grammar`: the grammar of sidecars (`InSidecar`), which the lines of digests are in.
-/

namespace Packaging

open Text

/-! ## Tokens -/

/-- A text begins with blanks and this token, and then it ends or has one more blank. -/
structure Text.BeginsWith (token cs : List Char) : Prop where
  ne_nil : token ≠ []
  noBlank : ∀ c ∈ token, isBlank c = false
  around : ∃ blanks rest, cs = blanks ++ token ++ rest ∧ (∀ c ∈ blanks, isBlank c = true) ∧
    ∀ c, rest.head? = some c → isBlank c = true

namespace Text

variable {cs token : List Char}

theorem firstToken_of_beginsWith (h : BeginsWith token cs) : firstToken cs = token := by
  obtain ⟨blanks, rest, rfl, hblanks, hrest⟩ := h.around
  have hkept : ∀ c ∈ token, (!isBlank c) = true := fun c hc => by rw [h.noBlank c hc]; rfl
  have hstart : (token ++ rest).dropWhile isBlank = token ++ rest := by
    obtain ⟨c, token, rfl⟩ := List.exists_cons_of_ne_nil h.ne_nil
    exact List.dropWhile_cons_of_neg (by rw [h.noBlank c List.mem_cons_self]; nofun)
  have hend : rest.takeWhile (fun c => !isBlank c) = [] := by
    cases rest with
    | nil => rfl
    | cons c rest => exact List.takeWhile_cons_of_neg (by rw [hrest c rfl]; nofun)
  rw [firstToken, List.append_assoc, List.dropWhile_append_of_pos hblanks, hstart,
    List.takeWhile_append_of_pos hkept, hend, List.append_nil]

theorem beginsWith_firstToken (h : firstToken cs ≠ []) : BeginsWith (firstToken cs) cs := by
  refine ⟨h, fun c hc => ?_, cs.takeWhile isBlank,
    (cs.dropWhile isBlank).dropWhile fun c => !isBlank c, ?_, fun c hc => ?_, fun c hc => ?_⟩
  · have hkept := List.all_eq_true.1 List.all_takeWhile c hc
    exact (Bool.not_eq_true' _).mp hkept
  · rw [firstToken, List.append_assoc, List.takeWhile_append_dropWhile,
      List.takeWhile_append_dropWhile]
  · exact List.all_eq_true.1 List.all_takeWhile c hc
  · have hstop := List.head?_dropWhile_not (fun c => !isBlank c) (cs.dropWhile isBlank)
    rw [hc] at hstop
    simpa using hstop

/-- **The first token of a text** is what the text begins with but for blanks. -/
theorem firstToken_eq_iff (hne : token ≠ []) : firstToken cs = token ↔ BeginsWith token cs :=
  ⟨fun h => h ▸ beginsWith_firstToken (h ▸ hne), firstToken_of_beginsWith⟩

end Text

namespace Digest

variable (d : Digest)

theorem toList_text_ne_nil : d.text.toList ≠ [] := by
  intro h
  have hsize := d.size_eq
  rw [String.toList_eq_nil_iff.1 h] at hsize
  cases hsize

theorem isDigit_text : ∀ c ∈ d.text.toList, Hex.isDigit c = true := List.all_eq_true.1 d.isHex

theorem isBlank_text : ∀ c ∈ d.text.toList, isBlank c = false := fun c hc =>
  Hex.isBlank_of_isDigit (d.isDigit_text c hc)

theorem length_text : d.text.toList.length = 64 := by
  rw [← Hex.utf8ByteSize_of_isDigit d.isDigit_text, String.ofList_toList, d.size_eq]

theorem ofText_text : ofText d.text = .ok d := by
  rw [ofText, dif_pos d.size_eq, dif_pos d.isHex]

theorem beginsWith_sidecarLine (name : String) :
    BeginsWith d.text.toList (d.sidecarLine name).toList := by
  refine ⟨d.toList_text_ne_nil, d.isBlank_text, [], (("  " ++ name) ++ "\n").toList, ?_, nofun, ?_⟩
  · simp only [sidecarLine, String.toList_append, List.append_assoc, List.nil_append]
  · intro c hc
    rw [String.append_assoc, String.toList_append] at hc
    cases hc
    decide

variable {d} {text token : String} {e : Error}

theorem ofSidecar_of_beginsWith (h : BeginsWith token.toList text.toList) :
    ofSidecar text = ofText token := by
  rw [ofSidecar, firstToken_of_beginsWith h]
  split
  · next hnil => exact absurd hnil h.ne_nil
  · rw [String.ofList_toList]

theorem ofSidecar_of_blank (h : ∀ c ∈ text.toList, isBlank c = true) :
    ofSidecar text = .error .empty := by
  rw [ofSidecar, firstToken_eq_nil_iff.2 (List.all_eq_true.2 h)]

theorem blank_or_beginsWith (text : String) : (∀ c ∈ text.toList, isBlank c = true) ∨
    ∃ token : String, BeginsWith token.toList text.toList := by
  by_cases h : firstToken text.toList = []
  · exact .inl (List.all_eq_true.1 (firstToken_eq_nil_iff.1 h))
  · refine .inr ⟨String.ofList (firstToken text.toList), ?_⟩
    rw [String.toList_ofList]
    exact beginsWith_firstToken h

/-- **A sidecar is read as the digest that it was written for**, whatever the name of the file. -/
theorem ofSidecar_sidecarLine (name : String) : ofSidecar (d.sidecarLine name) = .ok d := by
  rw [ofSidecar_of_beginsWith (d.beginsWith_sidecarLine name), ofText_text]

theorem ext_text {d d' : Digest} (h : d.text = d'.text) : d = d' := by
  cases d
  cases d'
  cases h
  rfl

theorem ofText_ok (h : ofText token = .ok d) : d.text = token := by
  rw [ofText] at h
  split at h
  · split at h
    · cases h; rfl
    · cases h
  · cases h

/-- **A sidecar records a digest exactly when its first token spells it.** -/
theorem ofSidecar_ok_iff :
    ofSidecar text = .ok d ↔ d.text = String.ofList (firstToken text.toList) := by
  rw [ofSidecar]
  split
  · next hnil =>
    refine ⟨nofun, fun h => ?_⟩
    rw [hnil] at h
    exact absurd (by rw [h]; rfl) d.toList_text_ne_nil
  · refine ⟨ofText_ok, fun h => ?_⟩
    rw [← h, ofText_text]

/-! ## Which sidecars record a digest -/

theorem ofSidecar_ok_iff_beginsWith :
    ofSidecar text = .ok d ↔ BeginsWith d.text.toList text.toList := by
  rw [ofSidecar_ok_iff, ← firstToken_eq_iff d.toList_text_ne_nil, ← String.toList_inj,
    String.toList_ofList, eq_comm]

/-- Digests are spelled by 64 characters that are hexadecimal digits. -/
theorem exists_toList_text_iff {token : List Char} : (∃ d : Digest, d.text.toList = token) ↔
    token.length = 64 ∧ ∀ c ∈ token, Hex.isDigit c = true := by
  constructor
  · rintro ⟨d, rfl⟩
    exact ⟨d.length_text, d.isDigit_text⟩
  · rintro ⟨hlength, hdigits⟩
    have hsize : (String.ofList token).utf8ByteSize = 64 := by
      rw [Hex.utf8ByteSize_of_isDigit hdigits, hlength]
    have hhex : (String.ofList token).toList.all Hex.isDigit = true := by
      rw [String.toList_ofList]
      exact List.all_eq_true.2 hdigits
    exact ⟨⟨String.ofList token, hsize, hhex⟩, String.toList_ofList⟩

/-- Why a text records no digest. The first token must have 64 bytes before its digits matter. -/
inductive Refused (text : String) : Error → Prop where
  | empty : (∀ c ∈ text.toList, isBlank c = true) → Refused text .empty
  | length {token : String} : BeginsWith token.toList text.toList → token.utf8ByteSize ≠ 64 →
      Refused text (.length token.utf8ByteSize token)
  | notHex {token : String} : BeginsWith token.toList text.toList → token.utf8ByteSize = 64 →
      (∃ c ∈ token.toList, Hex.isDigit c = false) → Refused text (.notHex token)

/-- **Why a sidecar records no digest**: it is blank, or its first token has another size, or else a
character that is no digit. -/
theorem ofSidecar_error_iff : ofSidecar text = .error e ↔ Refused text e := by
  have hhex {s : String} : (∃ c ∈ s.toList, Hex.isDigit c = false) ↔
      ¬ s.toList.all Hex.isDigit = true := by simp
  constructor
  · intro h
    rcases blank_or_beginsWith text with hblank | ⟨token, hbegins⟩
    · rw [ofSidecar_of_blank hblank] at h
      cases h
      exact .empty hblank
    · rw [ofSidecar_of_beginsWith hbegins, ofText] at h
      split at h
      · next hsize =>
        split at h
        · cases h
        · next hnot => cases h; exact .notHex hbegins hsize (hhex.2 hnot)
      · next hsize => cases h; exact .length hbegins hsize
  · intro h
    cases h with
    | empty hblank => exact ofSidecar_of_blank hblank
    | length hbegins hsize => rw [ofSidecar_of_beginsWith hbegins, ofText, dif_neg hsize]
    | notHex hbegins hsize hnot =>
      rw [ofSidecar_of_beginsWith hbegins, ofText, dif_pos hsize, dif_neg (hhex.1 hnot)]

/-! ## The grammar of sidecars -/

/-- A token stands in a sidecar: it is 64 hexadecimal digits, only blanks come before it, and after
it the text ends or has one more blank. -/
structure InSidecar (token text : String) : Prop where
  length : token.length = 64
  digits : ∀ c ∈ token.toList, c ∈ "0123456789abcdefABCDEF".toList
  around : ∃ before after : String, text = before ++ token ++ after ∧
    (∀ c ∈ before.toList, isBlank c = true) ∧ ∀ c, after.toList.head? = some c → isBlank c = true

theorem exists_text_iff {token : String} : (∃ d : Digest, d.text = token) ↔
    token.length = 64 ∧ ∀ c ∈ token.toList, c ∈ "0123456789abcdefABCDEF".toList := by
  simp only [← String.toList_inj, exists_toList_text_iff, String.length_toList,
    Hex.isDigit_iff_mem]

theorem beginsWith_text_iff : BeginsWith d.text.toList text.toList ↔ InSidecar d.text text := by
  obtain ⟨hlength, hdigits⟩ := exists_text_iff.1 ⟨d, rfl⟩
  constructor
  · intro h
    obtain ⟨before, after, htext, hbefore, hafter⟩ := h.around
    refine ⟨hlength, hdigits, String.ofList before, String.ofList after, ?_, ?_, ?_⟩
    · rw [← String.toList_inj, htext]
      simp only [String.toList_append, String.toList_ofList]
    · rwa [String.toList_ofList]
    · rwa [String.toList_ofList]
  · intro h
    obtain ⟨before, after, rfl, hbefore, hafter⟩ := h.around
    refine ⟨d.toList_text_ne_nil, d.isBlank_text, before.toList, after.toList, ?_, hbefore, hafter⟩
    simp only [String.toList_append]

theorem ofSidecar_empty_iff :
    ofSidecar text = .error .empty ↔ ∀ c ∈ text.toList, isBlank c = true := by
  rw [ofSidecar_error_iff]
  exact ⟨fun h => by cases h with | empty hblank => exact hblank, .empty⟩

/-- **Sidecars are read by their grammar**: a text records exactly the digest that stands in it; it
has no token exactly when it has nothing but blanks; and the line that is written for a digest
records it in the case it has, whatever the name of the file. -/
theorem ofSidecar_by_grammar :
    (∀ text token : String,
      (∃ d, ofSidecar text = .ok d ∧ d.text = token) ↔ InSidecar token text) ∧
    (∀ text : String, ofSidecar text = .error .empty ↔ ∀ c ∈ text.toList, isBlank c = true) ∧
    ∀ (d : Digest) (name : String), ofSidecar (d.sidecarLine name) = .ok d := by
  refine ⟨fun text token => ?_, fun _ => ofSidecar_empty_iff, fun _ => ofSidecar_sidecarLine⟩
  simp only [ofSidecar_ok_iff_beginsWith, beginsWith_text_iff]
  constructor
  · rintro ⟨d, h, rfl⟩
    exact h
  · intro h
    obtain ⟨d, rfl⟩ := exists_text_iff.2 ⟨h.length, h.digits⟩
    exact ⟨d, h, rfl⟩

end Digest

end Packaging
