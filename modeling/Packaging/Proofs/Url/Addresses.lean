import Packaging.Proofs.Url.Paths
import Packaging.Url.Address
import Mathlib.Data.List.Basic
import Mathlib.Data.List.Flatten
import Mathlib.Data.List.TakeDrop
import Mathlib.Data.List.TakeWhile

/-!
# Addresses at the root of a host

What is asked for under an address that is put together of a host and a path, and for which
addresses nothing can be asked.

* `ofText?_eq_some_iff`, `ofText?_eq_none_iff`: a request can be made for the addresses that are not
  `Address.Refused`.
* `readPath_eq_iff`: when all of a path is read as a path.
* `path_of_address`: the path of an address is what is read as its path.
* `asks_iff`: an address asks for its path as it stands exactly when the path is `Literal`.
* `length_lt_size_of_literal`: an address is longer than its literal path.
-/

namespace Packaging

open Text

/-! ## Addresses that requests are made for -/

/-- Why no request is made for an address: it is none of the web, its host has a character that
requests do not take, or it is too long. -/
inductive Address.Refused : Address → Prop
  | scheme {a : Address} : a.scheme ≠ "http" → a.scheme ≠ "https" → Refused a
  | host {u : Url} {c : Char} : c ∈ u.host.text → c ∈ ['"', '`', '{', '}'] → Refused (.url u)
  | long {a : Address} : 65534 < a.text.utf8ByteSize → Refused a

namespace Url

variable {c : Char} {cs ds front path authority : List Char} {u : Url} {address : String}

theorem isSendable_eq_false_iff : u.isSendable = false ↔ (Address.url u).Refused := by
  have hscheme : (u.scheme = .http ∨ u.scheme = .https) ↔
      u.scheme.name = "http" ∨ u.scheme.name = "https" := by
    cases u.scheme <;> decide
  have hsize : decide (u.text.utf8ByteSize ≤ longest) = false ↔ 65534 < u.text.utf8ByteSize := by
    rw [decide_eq_false_iff_not, Nat.not_le, longest]
  have hhost : (u.host.text.all fun c => !unsent.contains c) = false ↔
      ∃ c ∈ u.host.text, c ∈ unsent := by
    rw [List.all_eq_false]
    simp
  rw [isSendable, Bool.and_eq_false_iff, Bool.and_eq_false_iff, hhost, hsize, ← Bool.not_eq_true,
    Bool.or_eq_true, decide_eq_true_iff, decide_eq_true_iff, hscheme, not_or]
  constructor
  · rintro ((⟨h, h'⟩ | ⟨c, hc, hc'⟩) | h)
    · exact .scheme h h'
    · exact .host hc hc'
    · exact .long h
  · intro h
    cases h with
    | scheme h h' => exact .inl (.inl ⟨h, h'⟩)
    | host hc hc' => exact .inl (.inr ⟨_, hc, hc'⟩)
    | long h => exact .inr h

/-- What is read as an address of another scheme is none of the web. -/
theorem scheme_of_other {scheme written : String}
    (h : Address.ofText? address = some (.other scheme written)) :
    scheme ≠ "http" ∧ scheme ≠ "https" := by
  have hname : Scheme.ofName? scheme = none := by
    simp only [Address.ofText?] at h
    split at h
    · split at h
      · obtain ⟨_, -, h⟩ := Option.map_eq_some_iff.1 h
        cases h
      · next hnone =>
        obtain ⟨_, -, h⟩ := Option.map_eq_some_iff.1 h
        cases h
        exact hnone
    · cases h
  refine ⟨?_, ?_⟩ <;> (rintro rfl; revert hname; decide)

/-- **A request can be made for an address that is not refused.** -/
theorem ofText?_eq_some_iff : ofText? address = some u ↔
    Address.ofText? address = some (.url u) ∧ ¬ (Address.url u).Refused := by
  rw [ofText?, ← isSendable_eq_false_iff, Bool.not_eq_false]
  constructor
  · intro h
    obtain ⟨a, ha, h⟩ := Option.bind_eq_some_iff.1 h
    cases a with
    | url u' =>
      rw [Address.sendable?, Option.ite_none_right_eq_some] at h
      obtain ⟨hsend, h⟩ := h
      cases h
      exact ⟨ha, hsend⟩
    | other scheme written => cases h
  · rintro ⟨ha, hsend⟩
    rw [ha, Option.bind_some, Address.sendable?, if_pos hsend]

/-- **No request can be made for what is no address, or a refused one.** -/
theorem ofText?_eq_none_iff : ofText? address = none ↔
    ∀ a, Address.ofText? address = some a → a.Refused := by
  constructor
  · intro h a ha
    cases a with
    | url u =>
      by_contra hu
      rw [ofText?_eq_some_iff.2 ⟨ha, hu⟩] at h
      cases h
    | other scheme written =>
      obtain ⟨hhttp, hhttps⟩ := scheme_of_other ha
      exact .scheme hhttp hhttps
  · intro h
    by_contra hne
    obtain ⟨u, hu⟩ := Option.ne_none_iff_exists'.1 hne
    obtain ⟨ha, hu⟩ := ofText?_eq_some_iff.1 hu
    exact hu (h _ ha)

/-! ## What is read of an address -/

/-- The text without the spaces and controls at its end. -/
def trimmedEnd (cs : List Char) : List Char := (cs.reverse.dropWhile (·.toNat ≤ 0x20)).reverse

/-- What is read of the end of an address. -/
def cleanEnd (cs : List Char) : List Char :=
  (trimmedEnd cs).filter fun c => c ≠ '\t' && c ≠ '\n' && c ≠ '\r'

/-- What is read as the path, of the end of an address that begins with it. -/
def readPath (cs : List Char) : List Char :=
  ((cleanEnd cs).takeWhile (· ≠ '#')).takeWhile (· ≠ '?')

theorem trimmedEnd_sublist (cs : List Char) : (trimmedEnd cs).Sublist cs := by
  have h := (List.dropWhile_sublist (l := cs.reverse) (·.toNat ≤ 0x20)).reverse
  rwa [List.reverse_reverse] at h

theorem cleanEnd_sublist (cs : List Char) : (cleanEnd cs).Sublist cs :=
  List.filter_sublist.trans (trimmedEnd_sublist cs)

theorem readPath_sublist_cleanEnd (cs : List Char) : (readPath cs).Sublist (cleanEnd cs) :=
  (List.takeWhile_sublist _).trans (List.takeWhile_sublist _)

theorem readPath_sublist (cs : List Char) : (readPath cs).Sublist cs :=
  (readPath_sublist_cleanEnd cs).trans (cleanEnd_sublist cs)

theorem trimmedEnd_eq_iff : trimmedEnd cs = cs ↔ ∀ c ∈ cs.getLast?, 0x20 < c.toNat := by
  rw [trimmedEnd, List.reverse_eq_iff, List.getLast?_eq_head?_reverse]
  rcases cs.reverse with - | ⟨c, ds⟩
  · simp
  · by_cases hc : c.toNat ≤ 0x20
    · refine iff_of_false (fun h => ?_) fun h => Nat.not_lt_of_le hc (h c rfl)
      rw [List.dropWhile_cons_of_pos (by simpa using hc)] at h
      have hle := (List.dropWhile_sublist (l := ds) (·.toNat ≤ 0x20)).length_le
      rw [h, List.length_cons] at hle
      exact Nat.not_succ_le_self _ hle
    · refine iff_of_true (List.dropWhile_cons_of_neg (by simpa using hc)) fun d hd => ?_
      cases hd
      exact Nat.lt_of_not_le hc

theorem cleanEnd_eq_iff : cleanEnd cs = cs ↔
    (∀ c ∈ cs, c ∉ ['\t', '\n', '\r']) ∧ ∀ c ∈ cs.getLast?, 0x20 < c.toNat := by
  rw [← trimmedEnd_eq_iff]
  have hfilter : (cs.filter fun c => c ≠ '\t' && c ≠ '\n' && c ≠ '\r') = cs ↔
      ∀ c ∈ cs, c ∉ ['\t', '\n', '\r'] := by
    rw [List.filter_eq_self]
    simp [and_assoc]
  constructor
  · intro h
    have hle : (cleanEnd cs).Sublist (trimmedEnd cs) := List.filter_sublist
    rw [h] at hle
    have htrim := (trimmedEnd_sublist cs).antisymm hle
    rw [cleanEnd, htrim] at h
    exact ⟨hfilter.1 h, htrim⟩
  · rintro ⟨h, htrim⟩
    rw [cleanEnd, htrim]
    exact hfilter.2 h

/-- **All of a path is read as a path** if no character of it is dropped and none ends the path. -/
theorem readPath_eq_iff : readPath cs = cs ↔
    (∀ c ∈ cs, c ∉ ['\t', '\n', '\r', '#', '?']) ∧ ∀ c ∈ cs.getLast?, 0x20 < c.toNat := by
  have htake : ((cs.takeWhile (· ≠ '#')).takeWhile (· ≠ '?')) = cs ↔
      ∀ c ∈ cs, c ≠ '#' ∧ c ≠ '?' := by
    rw [List.takeWhile_takeWhile, List.takeWhile_eq_self_iff]
    simp [and_comm]
  have hall : (∀ c ∈ cs, c ∉ ['\t', '\n', '\r', '#', '?']) ↔
      (∀ c ∈ cs, c ∉ ['\t', '\n', '\r']) ∧ ∀ c ∈ cs, c ≠ '#' ∧ c ≠ '?' := by
    simp only [List.mem_cons, List.not_mem_nil, or_false]
    grind
  rw [hall, and_right_comm, ← cleanEnd_eq_iff, ← htake]
  constructor
  · intro h
    have hle := readPath_sublist_cleanEnd cs
    rw [h] at hle
    have hclean := (cleanEnd_sublist cs).antisymm hle
    rw [readPath, hclean] at h
    exact ⟨hclean, h⟩
  · rintro ⟨hclean, h⟩
    rw [readPath, hclean]
    exact h

/-! ## Addresses of a host and a path -/

/-- What stands between the scheme and the path of an address. -/
structure IsAuthority (cs : List Char) : Prop where
  ne_nil : cs ≠ []
  visible : ∀ c ∈ cs, 0x20 < c.toNat
  noEnd : ∀ c ∈ cs, (!(isSlash c || c = '?' || c = '#')) = true

/-- A scheme with the slashes after it. -/
def schemeText (secure : Bool) : List Char :=
  (if secure then "https://" else "http://").toList

theorem trimmedEnd_append_slash (front cs : List Char) :
    trimmedEnd (front ++ '/' :: cs) = front ++ '/' :: trimmedEnd cs := by
  have hslash : ('/' :: front.reverse).dropWhile (·.toNat ≤ 0x20) = '/' :: front.reverse :=
    List.dropWhile_cons_of_neg (by decide)
  rw [trimmedEnd, trimmedEnd, List.reverse_append, List.reverse_cons, List.append_assoc,
    List.singleton_append, List.dropWhile_append, hslash]
  split
  · next h => rw [List.isEmpty_iff.1 h]; simp
  · simp

theorem cleanEnd_append_slash (hfront : ∀ c ∈ front, 0x20 < c.toNat) (cs : List Char) :
    cleanEnd (front ++ '/' :: cs) = front ++ '/' :: cleanEnd cs := by
  have hkept : ∀ c ∈ front, (c ≠ '\t' && c ≠ '\n' && c ≠ '\r') = true := by
    intro c hc
    have hvisible := hfront c hc
    simp only [Bool.and_eq_true, decide_eq_true_iff]
    refine ⟨⟨?_, ?_⟩, ?_⟩ <;> (rintro rfl; revert hvisible; decide)
  rw [cleanEnd, trimmedEnd_append_slash, List.filter_append, List.filter_eq_self.2 hkept,
    List.filter_cons_of_pos (by decide)]
  rfl

theorem clean_append_slash (hfront : ∀ c ∈ front, 0x20 < c.toNat) (hne : front ≠ [])
    (cs : List Char) : clean (front ++ '/' :: cs) = front ++ '/' :: cleanEnd cs := by
  rw [← cleanEnd_append_slash hfront]
  obtain ⟨c, front, rfl⟩ := List.exists_cons_of_ne_nil hne
  have hc : ¬ c.toNat ≤ 0x20 := Nat.not_le_of_lt (hfront c List.mem_cons_self)
  show cleanEnd ((c :: (front ++ '/' :: cs)).dropWhile (·.toNat ≤ 0x20)) = _
  rw [List.dropWhile_cons_of_neg (by simpa using hc)]
  rfl

/-- What all of some characters have is decided for them alone. -/
theorem forall_mem_of_all {P : Char → Prop} [DecidablePred P]
    (h : cs.all (fun c => decide (P c)) = true) : ∀ c ∈ cs, P c :=
  fun c hc => of_decide_eq_true (List.all_eq_true.1 h c hc)

theorem visible_schemeText (secure : Bool) : ∀ c ∈ schemeText secure, 0x20 < c.toNat := by
  cases secure <;> exact forall_mem_of_all (by decide)

/-- The scheme that is written so. -/
def webScheme (secure : Bool) : Scheme := if secure then .https else .http

theorem readAddress_of_clean {secure : Bool} (h : clean address.toList = schemeText secure ++ cs) :
    Address.ofText? address =
      (afterSlashes? (webScheme secure) (cs.dropWhile isSlash)).map .url := by
  have hspan : (schemeText secure ++ cs).span (· ≠ ':') =
      ((if secure then "https" else "http").toList, "://".toList ++ cs) := by
    rw [List.span_eq_takeWhile_dropWhile]
    cases secure <;> rfl
  simp only [Address.ofText?, h, hspan]
  cases secure <;> rfl

theorem span_authority (hauthority : IsAuthority authority) (cs : List Char) :
    (authority ++ '/' :: cs).span (fun c => !(isSlash c || c = '?' || c = '#')) =
      (authority, '/' :: cs) := by
  rw [List.span_eq_takeWhile_dropWhile, List.takeWhile_append_of_pos hauthority.noEnd,
    List.dropWhile_append_of_pos hauthority.noEnd]
  simp [isSlash]

theorem afterSlashes?_ok {scheme : Scheme} (hauthority : IsAuthority authority)
    (h : afterSlashes? scheme (authority ++ '/' :: cs) = some u) :
    u.path = pathOf (('/' :: cs).takeWhile (· ≠ '#') |>.takeWhile (· ≠ '?')) ∧
      u.query = (('/' :: cs).takeWhile (· ≠ '#') |>.dropWhile (· ≠ '?')).head?.map
        fun _ => encode inQuery (('/' :: cs).takeWhile (· ≠ '#') |>.dropWhile (· ≠ '?')).tail := by
  simp only [afterSlashes?, span_authority hauthority, List.span_eq_takeWhile_dropWhile] at h
  obtain ⟨⟨user, host, port⟩, -, h⟩ := Option.bind_eq_some_iff.1 h
  cases h
  exact ⟨rfl, rfl⟩

/-- What is read as an address of a host and a path. -/
theorem readAddress_of_authority {secure : Bool} (hauthority : IsAuthority authority)
    (cs : List Char) :
    Address.ofText? (String.ofList (schemeText secure ++ authority ++ '/' :: cs)) =
      (afterSlashes? (webScheme secure) (authority ++ '/' :: cleanEnd cs)).map .url := by
  have hvisible : ∀ c ∈ schemeText secure ++ authority, 0x20 < c.toNat := fun c hc =>
    (List.mem_append.1 hc).elim (visible_schemeText secure c) (hauthority.visible c)
  have hne : schemeText secure ++ authority ≠ [] := fun h =>
    hauthority.ne_nil (List.append_eq_nil_iff.1 h).2
  have hclean : clean (String.ofList (schemeText secure ++ authority ++ '/' :: cs)).toList =
      schemeText secure ++ (authority ++ '/' :: cleanEnd cs) := by
    rw [String.toList_ofList, clean_append_slash hvisible hne, List.append_assoc]
  have hslash : (authority ++ '/' :: cleanEnd cs).dropWhile isSlash =
      authority ++ '/' :: cleanEnd cs := by
    obtain ⟨c, authority, rfl⟩ := List.exists_cons_of_ne_nil hauthority.ne_nil
    refine List.dropWhile_cons_of_neg ?_
    have := hauthority.noEnd c List.mem_cons_self
    simp_all
  rw [readAddress_of_clean hclean, hslash]

/-- Any path after an authority with a host makes an address. -/
theorem exists_address {secure : Bool} (hauthority : IsAuthority authority)
    (h : (authority? (webScheme secure).port authority).isSome) (cs : List Char) :
    ∃ u, Address.ofText? (String.ofList (schemeText secure ++ authority ++ '/' :: cs)) =
      some (.url u) := by
  obtain ⟨parts, hparts⟩ := Option.isSome_iff_exists.1 h
  rw [readAddress_of_authority hauthority]
  simp only [afterSlashes?, span_authority hauthority, hparts]
  exact ⟨_, rfl⟩

/-- **The path of an address** is what is read as its path. -/
theorem path_of_address {secure : Bool} (hauthority : IsAuthority authority)
    (h : Address.ofText? (String.ofList (schemeText secure ++ authority ++ '/' :: cs)) =
      some (.url u)) :
    u.path = pathOf ('/' :: readPath cs) ∧ (readPath cs = cs → u.query = none) := by
  rw [readAddress_of_authority hauthority] at h
  obtain ⟨u', hread, hu⟩ := Option.map_eq_some_iff.1 h
  cases hu
  obtain ⟨hpath, hquery⟩ := afterSlashes?_ok hauthority hread
  refine ⟨hpath, fun hread => ?_⟩
  have hnone : (('/' :: cleanEnd cs).takeWhile (· ≠ '#')).dropWhile (· ≠ '?') = [] := by
    rw [List.dropWhile_eq_nil_iff]
    intro c hc
    rcases List.mem_cons.1 ((List.takeWhile_sublist _).mem hc) with rfl | hc
    · decide
    · have hkept := (readPath_eq_iff.1 hread).1 c ((cleanEnd_sublist cs).mem hc)
      simp_all
  rw [hquery, hnone]
  rfl

/-! ## Addresses that ask for their path -/

/-- A path that an address asks for as it stands: no character of it is dropped, ends the path, is
read as another one or is decoded, and no segment is made of points. -/
structure Literal (cs : List Char) : Prop extends Plain cs where
  kept : ∀ c ∈ cs, c ∉ ['\t', '\n', '\r', '#', '?']
  endsVisibly : ∀ c ∈ cs.getLast?, 0x20 < c.toNat

theorem eq_of_sublist_of_le (h : ds.Sublist cs)
    (hle : (bytesOfChars cs).length ≤ (bytesOfChars ds).length) : ds = cs :=
  bytesOfChars_injective ((h.flatMap String.utf8EncodeChar).eq_of_length_le hle)

/-- **An address asks for its path as it stands exactly when the path is literal.** -/
theorem asks_iff {secure : Bool} (hauthority : IsAuthority authority)
    (h : Address.ofText? (String.ofList (schemeText secure ++ authority ++ '/' :: cs)) =
      some (.url u)) :
    (u.query = none ∧ decode (joined u.path) = bytesOfChars ('/' :: cs)) ↔ Literal cs := by
  obtain ⟨hpath, hquery⟩ := path_of_address hauthority h
  rw [hpath]
  constructor
  · rintro ⟨-, hdecode⟩
    have hle := length_decode_pathOf_le '/' (readPath cs)
    rw [hdecode, bytesOfChars_cons, bytesOfChars_cons, List.length_append, List.length_append,
      Nat.add_le_add_iff_left] at hle
    have hread := eq_of_sublist_of_le (readPath_sublist cs) hle
    rw [hread, decode_pathOf_iff] at hdecode
    obtain ⟨hkept, hends⟩ := readPath_eq_iff.1 hread
    exact ⟨hdecode, hkept, hends⟩
  · rintro ⟨hplain, hkept, hends⟩
    have hread := readPath_eq_iff.2 ⟨hkept, hends⟩
    rw [hread]
    exact ⟨hquery hread, decode_pathOf_iff.2 hplain⟩

theorem plain_append_slash_iff : Plain (cs ++ '/' :: ds) ↔ Plain cs ∧ Plain ds := by
  have hsplit : splitAtMarks (· = '/') (cs ++ '/' :: ds) =
      splitAtMarks (· = '/') cs ++ splitAtMarks (· = '/') ds :=
    splitAtMarks_append (by decide) cs ds
  constructor
  · rintro ⟨hslash, hu, hno⟩
    rw [List.mem_append, List.mem_cons, not_or, not_or] at hslash
    rw [hsplit, List.forall_mem_append] at hno
    obtain ⟨hcs, hds⟩ := unescaped_append_slash_iff.1 hu
    exact ⟨⟨hslash.1, hcs, hno.1⟩, ⟨hslash.2.2, hds, hno.2⟩⟩
  · rintro ⟨⟨hcs, hu, hno⟩, ⟨hds, hu', hno'⟩⟩
    refine ⟨?_, unescaped_append_slash_iff.2 ⟨hu, hu'⟩, ?_⟩
    · rw [List.mem_append, List.mem_cons, not_or, not_or]
      exact ⟨hcs, by decide, hds⟩
    · rw [hsplit, List.forall_mem_append]
      exact ⟨hno, hno'⟩

/-- What stands before the last slash of a path may end with any character that is kept. -/
theorem literal_append_slash_iff (hkept : ∀ c ∈ cs, c ∉ ['\t', '\n', '\r', '#', '?'])
    (hplain : Plain cs) : Literal (cs ++ '/' :: ds) ↔ Literal ds := by
  have hlast : (∀ c ∈ (cs ++ '/' :: ds).getLast?, 0x20 < c.toNat) ↔
      ∀ c ∈ ds.getLast?, 0x20 < c.toNat := by
    rw [List.getLast?_append, List.getLast?_cons, Option.some_or]
    cases ds.getLast? with
    | none => simp
    | some c => simp
  constructor
  · rintro ⟨hp, hk, hends⟩
    rw [List.forall_mem_append, List.forall_mem_cons] at hk
    exact ⟨(plain_append_slash_iff.1 hp).2, hk.2.2, hlast.1 hends⟩
  · rintro ⟨hp, hk, hends⟩
    refine ⟨plain_append_slash_iff.2 ⟨hplain, hp⟩, ?_, hlast.2 hends⟩
    rw [List.forall_mem_append, List.forall_mem_cons]
    exact ⟨hkept, by decide, hk⟩

/-! ## How long an address is -/

/-- The path of an address is part of its text. -/
theorem length_path_le_size (u : Url) :
    (bytesOfChars (joined u.path)).length ≤ u.text.utf8ByteSize := by
  have htarget : (bytesOfChars (joined u.path)).length ≤ (bytesOf u.target).length := by
    rw [target, bytesOf_ofList, bytesOfChars_append, List.length_append]
    exact Nat.le_add_right _ _
  replace htarget : (bytesOfChars (joined u.path)).length ≤ u.target.utf8ByteSize := htarget
  rw [text, withoutFragment, String.utf8ByteSize_append, String.utf8ByteSize_append]
  omega

/-- An address is longer than its path if that is literal. -/
theorem length_lt_size_of_literal {secure : Bool} (hauthority : IsAuthority authority)
    (h : Address.ofText? (String.ofList (schemeText secure ++ authority ++ '/' :: cs)) =
      some (.url u)) (hcs : Literal cs) : cs.length < u.text.utf8ByteSize := by
  obtain ⟨-, hdecode⟩ := (asks_iff hauthority h).2 hcs
  have hpath := length_decode_le (joined u.path)
  rw [hdecode] at hpath
  have htext := length_path_le_size u
  have hbytes := length_le_length_bytesOfChars ('/' :: cs)
  rw [List.length_cons] at hbytes
  omega

end Url

end Packaging
