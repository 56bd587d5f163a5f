import Packaging.Proofs.Actions
import Packaging.Proofs.Json.Kept
import Packaging.Proofs.Wire.Matrix

/-!
# The grammar of builds

A build is read while its object is read: seven fields at once, six others from the entries that
were kept. Which build results depends on the values under its thirteen keys only, not on the order
of the entries and not on the entries under other keys.

* `Spells`: the entries of an object spell out a build.
* `decodes_by_grammar`: objects, and matrices in texts, are read by this grammar.
-/

namespace Packaging

open Document

/-! ## Values -/

section Values

variable {x : Json}

theorem readString_ok_iff {s : String} : readString x = .ok s ↔ x = .string s := by
  constructor
  · intro h
    cases x with
    | string t => cases h; rfl
    | number n => cases n <;> cases h
    | _ => cases h
  · rintro rfl
    rfl

theorem readBoolean_ok_iff {b : Bool} : readBoolean x = .ok b ↔ x = .boolean b := by
  constructor
  · intro h
    cases x with
    | boolean c => cases h; rfl
    | number n => cases n <;> cases h
    | _ => cases h
  · rintro rfl
    rfl

theorem readUnit_ok_iff : readUnit x = .ok () ↔ x = .null := by
  constructor
  · intro h
    cases x with
    | null => rfl
    | number n => cases n <;> cases h
    | _ => cases h
  · rintro rfl
    rfl

theorem readOptional_ok_iff {o : Option String} :
    readOptional readString x = .ok o ↔ x = o.elim .null .string := by
  constructor
  · intro h
    cases x with
    | null => cases h; rfl
    | string t => cases h; rfl
    | number n => cases n <;> cases h
    | _ => cases h
  · rintro rfl
    cases o <;> rfl

theorem Linkage.readName_ok_iff {name : String} {l : Linkage} :
    readName name = .ok l ↔ name = l.name := by
  unfold readName
  rw [← ofName?_eq_some_iff]
  cases ofName? name <;> simp

/-- A linkage is read from its name, or from an object that has its name for the only key. -/
theorem Linkage.read_ok_iff {l : Linkage} :
    Linkage.read x = .ok l ↔ x = .string l.name ∨ x = .object [(l.name, .null)] := by
  constructor
  · intro h
    cases x with
    | string name => exact .inl (congrArg Json.string (readName_ok_iff.1 h))
    | object entries =>
      cases entries with
      | nil => cases h
      | cons e more =>
        obtain ⟨name, y⟩ := e
        obtain ⟨l', hname, h⟩ := bind_ok_iff.1 h
        obtain ⟨⟨⟩, hnull, h⟩ := bind_ok_iff.1 h
        cases more with
        | cons => cases h
        | nil =>
          cases h
          obtain rfl := readName_ok_iff.1 hname
          obtain rfl := readUnit_ok_iff.1 hnull
          exact .inr rfl
    | number n => cases n <;> cases h
    | _ => cases h
  · rintro (rfl | rfl)
    · exact readName_name l
    · show (readName l.name >>= _) = _
      rw [readName_name]
      rfl

end Values

/-! ## Builds -/

namespace Build

variable {entries entries' : List (String × Json)} {b : Build}

/-- The entries that are kept for the platform. -/
def kept (entries : List (String × Json)) : List (String × Json) :=
  entries.filter fun e => (schema.ofKey? e.1).isNone

theorem collect_complete_ok_iff {ks : List (String × Json)} {details : Details} :
    (∃ d, schema.collect Field.read keepEntry .empty entries = .ok (d, ks) ∧
      d.complete schema.missing = .ok details) ↔
      (∃ value : (f : Field) → f.Value,
        (∀ f, Held f.read f.default? (valuesAt f.key entries) (value f)) ∧
          schema.make value = details) ∧ ks = kept entries := by
  have hkey (f : Field) : schema.ofKey? f.key = some f := by
    cases f <;> rfl
  rw [Schema.complete_collect_ok_iff hkey fun e => (rfl : keepEntry e.1 e.2 = .ok [e]),
    List.flatMap_singleton']
  rfl

/-- The platform is read from the entries that were kept as it is from all of them. -/
theorem platform_ok_iff {platform : Platform} :
    Platform.schema.ofEntries Platform.Field.read Schema.ignored (kept entries) .closed =
        .ok platform ↔
      ∀ f : Platform.Field, Held f.read f.default? (valuesAt f.key entries)
        (platform.fieldValue f) := by
  have hkept (f : Platform.Field) : valuesAt f.key (kept entries) = valuesAt f.key entries :=
    valuesAt_filter (p := fun key => (schema.ofKey? key).isNone) (by cases f <;> rfl)
  rw [Platform.ofEntries_ok_iff fun _ => rfl]
  simp only [hkept]

/-- All fields of a build, its platform's included, are held by the entries of an object. -/
theorem ofEntries_ok_iff :
    ofEntries entries .closed = .ok b ↔
      (∀ f : Field, Held f.read f.default? (valuesAt f.key entries) (b.fieldValue f)) ∧
      ∀ f : Platform.Field, Held f.read f.default? (valuesAt f.key entries)
        (b.platform.fieldValue f) := by
  unfold ofEntries
  rw [bind_ok_iff]
  constructor
  · rintro ⟨⟨d, ks⟩, hcollect, h⟩
    obtain ⟨⟨⟩, -, h⟩ := bind_ok_iff.1 h
    obtain ⟨details, hcomplete, h⟩ := bind_ok_iff.1 h
    obtain ⟨platform, hplatform, h⟩ := bind_ok_iff.1 h
    cases h
    obtain ⟨⟨value, hheld, rfl⟩, rfl⟩ := collect_complete_ok_iff.1 ⟨d, hcollect, hcomplete⟩
    refine ⟨fun f => ?_, platform_ok_iff.1 hplatform⟩
    have := hheld f
    cases f <;> exact this
  · rintro ⟨hheld, hplatform⟩
    obtain ⟨d, hcollect, hcomplete⟩ :=
      collect_complete_ok_iff.2 ⟨⟨b.fieldValue, hheld, rfl⟩, rfl⟩
    refine ⟨(d, kept entries), hcollect, bind_ok_iff.2 ⟨(), rfl, ?_⟩⟩
    refine bind_ok_iff.2 ⟨_, hcomplete, bind_ok_iff.2 ⟨_, platform_ok_iff.2 hplatform, rfl⟩⟩

/-! ## The grammar -/

/-- What stands under the key of an optional field: a string, or null, or nothing. -/
def SpellsOptional (entries : List (String × Json)) (key : String) : Option String → Prop
  | some s => valuesAt key entries = [.string s]
  | none => valuesAt key entries = [.null] ∨ valuesAt key entries = []

/-- **The entries of an object spell out a build**: every key stands there once, or not at all where
it may be left out, and its value is the build's. -/
structure Spells (entries : List (String × Json)) (b : Build) : Prop where
  version : valuesAt "version" entries = [.string b.version]
  commit : valuesAt "sha" entries = [.string b.commit]
  sharedLibs : valuesAt "build_shared_libs" entries = [.string b.sharedLibs] ∨
    valuesAt "build_shared_libs" entries = [] ∧ b.sharedLibs = ""
  linkage : valuesAt "linkage" entries = [.string b.linkage.name] ∨
    valuesAt "linkage" entries = [.object [(b.linkage.name, .null)]]
  packageVersion : valuesAt "pkg_version" entries = [.string b.packageVersion]
  tarball : valuesAt "tarball" entries = [.string b.tarball]
  prebuilt : valuesAt "prebuilt" entries = [.boolean b.prebuilt]
  id : valuesAt "platform" entries = [.string b.platform.id]
  runner : valuesAt "os" entries = [.string b.platform.runner]
  triplet : valuesAt "triplet" entries = [.string b.platform.triplet]
  cmakeArgs : SpellsOptional entries "cmake_args" b.platform.cmakeArgs
  deploymentTarget : SpellsOptional entries "MACOSX_DEPLOYMENT_TARGET" b.platform.deploymentTarget
  container : SpellsOptional entries "manylinux" b.platform.container

section Held

variable {xs : List Json}

theorem held_string_iff {s : String} : Held readString none xs s ↔ xs = [.string s] := by
  simp [Held, readString_ok_iff]

theorem held_string_or_iff {s t : String} :
    Held readString (some t) xs s ↔ xs = [.string s] ∨ xs = [] ∧ s = t := by
  simp only [Held, readString_ok_iff, exists_eq_right, Option.some.injEq, eq_comm (a := t)]
  exact or_comm

theorem held_boolean_iff {c : Bool} : Held readBoolean none xs c ↔ xs = [.boolean c] := by
  simp [Held, readBoolean_ok_iff]

theorem held_linkage_iff {l : Linkage} :
    Held Linkage.read none xs l ↔ xs = [.string l.name] ∨ xs = [.object [(l.name, .null)]] := by
  simp [Held, Linkage.read_ok_iff, and_or_left, exists_or]

theorem held_optional_iff {key : String} {o : Option String} :
    Held (readOptional readString) (some none) (valuesAt key entries) o ↔
      SpellsOptional entries key o := by
  simp only [Held, readOptional_ok_iff, exists_eq_right]
  cases o with
  | none => simp [SpellsOptional, or_comm]
  | some s => simp [SpellsOptional]

end Held

/-- Entries spell out a build when they hold its fields. -/
theorem spells_iff :
    Spells entries b ↔
      (∀ f : Field, Held f.read f.default? (valuesAt f.key entries) (b.fieldValue f)) ∧
      ∀ f : Platform.Field, Held f.read f.default? (valuesAt f.key entries)
        (b.platform.fieldValue f) := by
  constructor
  · intro h
    constructor
    · intro f
      cases f with
      | version => exact held_string_iff.2 h.version
      | commit => exact held_string_iff.2 h.commit
      | sharedLibs => exact held_string_or_iff.2 h.sharedLibs
      | linkage => exact held_linkage_iff.2 h.linkage
      | packageVersion => exact held_string_iff.2 h.packageVersion
      | tarball => exact held_string_iff.2 h.tarball
      | prebuilt => exact held_boolean_iff.2 h.prebuilt
    · intro f
      cases f with
      | id => exact held_string_iff.2 h.id
      | runner => exact held_string_iff.2 h.runner
      | cmakeArgs => exact held_optional_iff.2 h.cmakeArgs
      | deploymentTarget => exact held_optional_iff.2 h.deploymentTarget
      | triplet => exact held_string_iff.2 h.triplet
      | container => exact held_optional_iff.2 h.container
  · rintro ⟨own, platform⟩
    exact {
      version := held_string_iff.1 (own .version)
      commit := held_string_iff.1 (own .commit)
      sharedLibs := held_string_or_iff.1 (own .sharedLibs)
      linkage := held_linkage_iff.1 (own .linkage)
      packageVersion := held_string_iff.1 (own .packageVersion)
      tarball := held_string_iff.1 (own .tarball)
      prebuilt := held_boolean_iff.1 (own .prebuilt)
      id := held_string_iff.1 (platform .id)
      runner := held_string_iff.1 (platform .runner)
      triplet := held_string_iff.1 (platform .triplet)
      cmakeArgs := held_optional_iff.1 (platform .cmakeArgs)
      deploymentTarget := held_optional_iff.1 (platform .deploymentTarget)
      container := held_optional_iff.1 (platform .container) }

/-- An object is read as a build exactly if its entries spell it out. -/
theorem read_object_ok_iff : read (Json.object entries) = .ok b ↔ Spells entries b := by
  rw [spells_iff, ← ofEntries_ok_iff]
  rfl

/-- The keys of a build. -/
def keys : List String :=
  schema.fields.map Field.key ++ Platform.schema.fields.map Platform.Field.key

/-- The entries under the keys of a build. -/
def ownEntries (entries : List (String × Json)) : List (String × Json) :=
  entries.filter fun e => keys.contains e.1

/-- What entries spell out depends on the entries under the keys of a build only, in any order. -/
theorem spells_of_perm (h : (ownEntries entries).Perm (ownEntries entries'))
    (hspells : Spells entries b) : Spells entries' b := by
  have hvalues (key : String) (hkey : key ∈ keys) :
      (valuesAt key entries).Perm (valuesAt key entries') := by
    have hown (entries : List (String × Json)) :
        valuesAt key (ownEntries entries) = valuesAt key entries :=
      valuesAt_filter (p := fun key => keys.contains key) (by simpa using hkey)
    rw [← hown entries, ← hown entries']
    exact valuesAt_perm h
  have hheld {β : Type} {read : Json → Except Fault β} {default : Option β} {y : β} {key : String}
      (hkey : key ∈ keys) (hy : Held read default (valuesAt key entries) y) :
      Held read default (valuesAt key entries') y := by
    have hperm := hvalues key hkey
    rcases hy with ⟨hnone, hy⟩ | ⟨x, hone, hy⟩
    · rw [hnone] at hperm
      exact .inl ⟨hperm.symm.eq_nil, hy⟩
    · rw [hone] at hperm
      exact .inr ⟨x, List.perm_singleton.1 hperm.symm, hy⟩
  rw [spells_iff] at hspells ⊢
  refine ⟨fun f => hheld ?_ (hspells.1 f), fun f => hheld ?_ (hspells.2 f)⟩
  · exact List.mem_append_left _ (List.mem_map_of_mem (schema.mem_fields f))
  · exact List.mem_append_right _ (List.mem_map_of_mem (Platform.schema.mem_fields f))

end Build

/-! ## Matrices -/

/-- A text whose value is an array of objects is read as the builds that the objects spell out. -/
theorem parseMatrix_ok_iff {text : String} {objects : List (List (String × Json))}
    (h : Json.readText KeptFormat.keep text = .ok (.array (objects.map Json.object)))
    {builds : List Build} :
    parseMatrix text = .ok builds ↔ List.Forall₂ Build.Spells objects builds := by
  have hlist : readList Build.read (Json.array (objects.map Json.object)) =
      (objects.map Json.object).mapM Build.read := by
    show ((objects.map Json.object).mapM Build.read >>= fun values => pure values) = _
    rw [bind_pure]
  rw [parseMatrix_of_keep h, hlist, Action.mapM_ok_iff fun _ _ _ => Iff.rfl,
    List.forall₂_map_left_iff]
  simp only [Build.read_object_ok_iff]

/-- **Builds are read by their grammar**: an object is read exactly if its entries spell out a
build, and gives that build; the order of the entries and entries under other keys, also repeated
ones, do not matter; and a matrix is an array of such objects. -/
theorem decodes_by_grammar :
    (∀ entries b, Build.read (Json.object entries) = .ok b ↔ Build.Spells entries b) ∧
    (∀ entries entries' : List (String × Json), entries.Perm entries' → ∀ b,
      Build.read (Json.object entries) = .ok b ↔ Build.read (Json.object entries') = .ok b) ∧
    (∀ front others back : List (String × Json), (∀ e ∈ others, e.1 ∉ Build.keys) → ∀ b,
      Build.read (Json.object (front ++ others ++ back)) = .ok b ↔
        Build.read (Json.object (front ++ back)) = .ok b) ∧
    ∀ (text : String) (objects : List (List (String × Json))),
      Json.readText KeptFormat.keep text = .ok (.array (objects.map Json.object)) →
      ∀ builds, parseMatrix text = .ok builds ↔ List.Forall₂ Build.Spells objects builds := by
  have hsame {entries entries' : List (String × Json)}
      (h : (Build.ownEntries entries).Perm (Build.ownEntries entries')) (b : Build) :
      Build.read (Json.object entries) = .ok b ↔ Build.read (Json.object entries') = .ok b := by
    rw [Build.read_object_ok_iff, Build.read_object_ok_iff]
    exact ⟨Build.spells_of_perm h, Build.spells_of_perm h.symm⟩
  refine ⟨fun _ _ => Build.read_object_ok_iff, fun _ _ h => hsame (h.filter _), ?_,
    fun _ _ h _ => parseMatrix_ok_iff h⟩
  intro front others back hothers
  have hnone : Build.ownEntries others = [] := by
    refine List.filter_eq_nil_iff.2 fun e he => ?_
    simpa using hothers e he
  have hown : Build.ownEntries (front ++ others ++ back) = Build.ownEntries (front ++ back) := by
    unfold Build.ownEntries at hnone ⊢
    rw [List.filter_append, List.filter_append, hnone, List.append_nil, ← List.filter_append]
  exact hsame (List.Perm.of_eq hown)

/-- A build's entries out of order, without those that may be left out. -/
def shuffledEntries : List (String × Json) :=
  [("tarball", .string "t"), ("manylinux", .null), ("linkage", .object [("Static", .null)]),
    ("os", .string "r"), ("pkg_version", .string "v"), ("platform", .string "p"),
    ("prebuilt", .boolean true), ("sha", .string "c"), ("triplet", .string "x"),
    ("version", .string "1")]

/-- The build that these entries spell out. -/
def shuffledBuild : Build :=
  { platform := { id := "p", runner := "r", triplet := "x" }, version := "1", commit := "c"
    sharedLibs := "", linkage := .static, packageVersion := "v", tarball := "t", prebuilt := true }

theorem spells_shuffled : Build.Spells shuffledEntries shuffledBuild where
  version := rfl
  commit := rfl
  sharedLibs := .inr ⟨rfl, rfl⟩
  linkage := .inr rfl
  packageVersion := rfl
  tarball := rfl
  prebuilt := rfl
  id := rfl
  runner := rfl
  triplet := rfl
  cmakeArgs := .inr rfl
  deploymentTarget := .inr rfl
  container := .inl rfl

theorem decodes_shuffled :
    Build.read (Json.object shuffledEntries.reverse) = .ok shuffledBuild ∧
    Build.read (Json.object (shuffledEntries ++ [("x", .null), ("x", .null)])) =
      .ok shuffledBuild ∧
    ∃ text, Json.readText KeptFormat.keep text = .ok (.array [.object shuffledEntries]) ∧
      parseMatrix text = .ok [shuffledBuild] := by
  obtain ⟨hread, hperm, hothers, htext⟩ := decodes_by_grammar
  have hshuffled := (hread shuffledEntries shuffledBuild).2 spells_shuffled
  refine ⟨(hperm _ _ (List.reverse_perm _) _).2 hshuffled, ?_,
    (Json.array [.object shuffledEntries]).text .compact ++ "", ?_⟩
  · have := (hothers shuffledEntries [("x", .null), ("x", .null)] [] (by decide) shuffledBuild).2
    simpa using this (by simpa using hshuffled)
  · have hkeep : Json.readText KeptFormat.keep
        ((Json.array [.object shuffledEntries]).text .compact ++ "") =
          .ok (.array [.object shuffledEntries]) := by
      have hnumberless : (Json.array [.object shuffledEntries]).Numberless := by
        simp [Json.Numberless, Json.NumberlessItems, Json.NumberlessEntries, shuffledEntries]
      rw [Json.readText_text Json.Spacing.blank_compact _ hnumberless (by simp [Json.Blank])]
      rfl
    exact ⟨hkeep, (htext _ [shuffledEntries] hkeep _).2 (.cons spells_shuffled .nil)⟩

end Packaging
