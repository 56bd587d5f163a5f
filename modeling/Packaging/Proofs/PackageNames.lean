import Packaging.Proofs.Build
import Packaging.Proofs.Matrix
import Packaging.Proofs.Plan
import Packaging.Proofs.Text.Pieces
import Packaging.Release.Assembly
import Mathlib.Data.List.Pairwise

/-!
# When the packages of a matrix have distinct names

Plans are checked for repeated ids and versions, but packages are named after the packaged name of a
platform, a version, a short commit and a linkage, which run together.

* `tarballName_eq_iff`: packages share a name when they share the extension and what precedes it.
* `derive_tarball_eq_iff`: the parts of a name can be told from it if dashes set them apart
  (`Delimited`).
* `nodup_namesOf_iff`: the packages of one version have distinct names when the platforms have
  distinct packaged names (`front_ne_front_static`: a shared build is never named as a static one),
  that is, unless a platform goes by the name of another (`nodup_packagedNames_iff`).
* `nodup_tarballs_iff`: so have the packages of a matrix when also those of different versions are
  kept apart (`KeepsApart`); for hashes of commits this is about platforms and versions
  (`keepsApart_iff`).
-/

namespace Packaging

open Text

/-! ## Names of two packages -/

section Names

variable {id id' version version' : String}

/-- Archives are told apart by the last character of their extension. -/
theorem archiveExtension_eq_of_append {packaged packaged' : String} {a b : List Char}
    (h : a ++ (archiveExtension packaged).toList = b ++ (archiveExtension packaged').toList) :
    archiveExtension packaged = archiveExtension packaged' := by
  have hlast := congrArg List.getLast? h
  rw [List.getLast?_append, List.getLast?_append] at hlast
  rcases archiveExtension_cases packaged with ⟨hp, hz⟩ | ⟨hp, hz⟩ <;>
    rcases archiveExtension_cases packaged' with ⟨hp', hz'⟩ | ⟨hp', hz'⟩ <;>
    rw [hz, hz', Option.some_or, Option.some_or] at hlast <;> rw [hp, hp']
  · exact absurd hlast (by decide)
  · exact absurd hlast (by decide)

theorem tarballName_eq_iff : tarballName id version = tarballName id' version' ↔
    archiveExtension (packagedName id) = archiveExtension (packagedName id') ∧
      packagedName id ++ "-" ++ version = packagedName id' ++ "-" ++ version' := by
  constructor
  · intro h
    have hlist := congrArg String.toList h
    simp only [tarballName, String.toList_append] at hlist
    have hext := archiveExtension_eq_of_append hlist
    rw [hext] at hlist
    have hfront := List.append_cancel_right (List.append_cancel_right hlist)
    simp only [List.append_assoc] at hfront
    refine ⟨hext, String.toList_inj.1 ?_⟩
    simpa only [String.toList_append, List.append_assoc] using
      List.append_cancel_left (List.append_cancel_left hfront)
  · rintro ⟨hext, hfront⟩
    have hstem (a b : String) : packageStem ++ "-" ++ a ++ "-" ++ b =
        packageStem ++ "-" ++ (a ++ "-" ++ b) := by simp only [String.append_assoc]
    rw [tarballName, tarballName, hstem, hstem, hfront, hext]

end Names

/-- Only one id goes by the name of another. -/
theorem packagedName_eq_iff {id id' : String} : packagedName id = packagedName id' ↔
    id = id' ∨ (id = "linux-aarch64" ∧ id' = "linux-arm64") ∨
      (id = "linux-arm64" ∧ id' = "linux-aarch64") := by
  unfold packagedName
  split <;> split <;> simp_all [eq_comm]

/-! ## The parts of a name -/

section Parts

variable {front front' part part' name name' version version' commit commit' : String}
  {l l' : Linkage}

/-- The last of the parts that dashes divide can be told from those before it. -/
theorem dashed_eq_iff (h : '-' ∉ part.toList) (h' : '-' ∉ part'.toList) :
    front ++ "-" ++ part = front' ++ "-" ++ part' ↔ front = front' ∧ part = part' := by
  constructor
  · intro heq
    have hlist : front.toList ++ '-' :: part.toList = front'.toList ++ '-' :: part'.toList := by
      simpa using congrArg String.toList heq
    obtain ⟨hfront, hpart⟩ := eq_of_append_mark h h' hlist
    exact ⟨String.toList_inj.1 hfront, String.toList_inj.1 hpart⟩
  · rintro ⟨rfl, rfl⟩
    rfl

/-- A version and a commit that the dashes around them set apart in the name of a package. -/
structure Delimited (version commit : String) : Prop where
  noDash_version : '-' ∉ version.toList
  noDash_commit : '-' ∉ (shortCommit commit).toList
  /-- The commit does not read as the mark of a static build. -/
  ne_static : shortCommit commit ≠ "static"

/-- What stands before the extension of a name. -/
def dashed (name version commit : String) : String := name ++ "-" ++ version ++ "-" ++ commit

theorem dashed_parts_eq_iff (h : Delimited version commit) (h' : Delimited version' commit') :
    dashed name version (shortCommit commit) = dashed name' version' (shortCommit commit') ↔
      name = name' ∧ version = version' ∧ shortCommit commit = shortCommit commit' := by
  rw [dashed, dashed, dashed_eq_iff h.noDash_commit h'.noDash_commit,
    dashed_eq_iff h.noDash_version h'.noDash_version, and_assoc]

/-- A shared build is not named as a static one, whose last part is no commit. -/
theorem dashed_ne_static (h : Delimited version commit) :
    dashed name version (shortCommit commit) ≠ front ++ "-" ++ "static" := by
  intro heq
  exact h.ne_static ((dashed_eq_iff h.noDash_commit (by decide)).1 heq).2

theorem packageVersion_eq_iff (h : Delimited version commit) (h' : Delimited version' commit') :
    name ++ "-" ++ packageVersion version (shortCommit commit) l =
        name' ++ "-" ++ packageVersion version' (shortCommit commit') l' ↔
      name = name' ∧ version = version' ∧ shortCommit commit = shortCommit commit' ∧ l = l' := by
  have hshared (name version commit : String) :
      name ++ "-" ++ packageVersion version commit .dynamic = dashed name version commit := by
    simp only [packageVersion, Linkage.suffix, dashed, String.append_empty, String.append_assoc]
  have hstatic (name version commit : String) :
      name ++ "-" ++ packageVersion version commit .static =
        dashed name version commit ++ "-" ++ "static" := by
    have hsuffix : Linkage.static.suffix = "-" ++ "static" := by decide
    simp only [packageVersion, hsuffix, dashed, String.append_assoc]
  cases l <;> cases l'
  case dynamic.dynamic =>
    rw [hshared, hshared, dashed_parts_eq_iff h h']
    simp only [and_true]
  case dynamic.static =>
    rw [hshared, hstatic]
    exact iff_of_false (dashed_ne_static h) fun hparts => nomatch hparts.2.2.2
  case static.dynamic =>
    rw [hshared, hstatic]
    exact iff_of_false (dashed_ne_static h').symm fun hparts => nomatch hparts.2.2.2
  case static.static =>
    rw [hstatic, hstatic, String.append_left_inj, String.append_left_inj, dashed_parts_eq_iff h h']
    simp only [and_true]

/-- **The name of a package tells what it is built from**: the packaged name of the platform, the
version, the short commit and the linkage, if dashes set version and commit apart. Neither the
dashes of a platform nor the extension that goes with it can blur them. -/
theorem derive_tarball_eq_iff {q q' : Platform} (h : Delimited version commit)
    (h' : Delimited version' commit') :
    (Build.derive q version commit l).tarball = (Build.derive q' version' commit' l').tarball ↔
      q.packagedName = q'.packagedName ∧ version = version' ∧
        shortCommit commit = shortCommit commit' ∧ l = l' := by
  rw [Build.derive, Build.derive, tarballName_eq_iff, packageVersion_eq_iff h h']
  constructor
  · exact And.right
  · intro hparts
    exact ⟨congrArg archiveExtension hparts.1, hparts⟩

/-- One platform by two ids, at one short commit: the names agree, but not for two linkages. -/
theorem derive_tarball_eq_iff_alias :
    let aarch64 : Platform := { id := "linux-aarch64", runner := "r", triplet := "x" }
    let arm64 : Platform := { id := "linux-arm64", runner := "s", triplet := "y" }
    Delimited "2.27.0" "0a1b2c3d" ∧ Delimited "2.27.0" "0a1b2c3f" ∧
    (Build.derive aarch64 "2.27.0" "0a1b2c3d" .static).tarball =
      (Build.derive arm64 "2.27.0" "0a1b2c3f" .static).tarball ∧
    (Build.derive aarch64 "2.27.0" "0a1b2c3d" .static).tarball ≠
      (Build.derive arm64 "2.27.0" "0a1b2c3f" .dynamic).tarball := by
  have h : Delimited "2.27.0" "0a1b2c3d" := ⟨by decide, by decide, by decide⟩
  have h' : Delimited "2.27.0" "0a1b2c3f" := ⟨by decide, by decide, by decide⟩
  refine ⟨h, h', (derive_tarball_eq_iff h h').2 ⟨by decide, rfl, by decide, rfl⟩, fun heq => ?_⟩
  exact nomatch ((derive_tarball_eq_iff h h').1 heq).2.2.2

end Parts

namespace Plan

variable {p : Plan} {forge : Forge} {published : Assets} {q q' : Platform} {v v' x : String}
  {l l' : Linkage}

/-- What a package is named after but for its linkage: a platform, a version and a commit. -/
def front (forge : Forge) (q : Platform) (v : String) : String :=
  q.packagedName ++ "-" ++ (v ++ "-" ++ shortCommit (commitOf forge v))

/-- The name of a package. -/
def nameOf (forge : Forge) (q : Platform) (v : String) (l : Linkage) : String :=
  tarballName q.id (packageVersion v (shortCommit (commitOf forge v)) l)

/-- The names of the packages of a version, in the order of the matrix. -/
def namesOf (p : Plan) (forge : Forge) (v : String) : List String :=
  (Linkage.all.filter (isPackaged v)).flatMap fun l => p.platforms.map fun q => nameOf forge q v l

theorem map_tarball_buildsOf :
    (p.buildsOf published v (commitOf forge v)).map (·.tarball) = p.namesOf forge v := by
  simp only [buildsOf, namesOf, List.map_flatMap, List.map_map]
  rfl

theorem nameOf_mem (hl : isPackaged v l = true) (hq : q ∈ p.platforms) :
    nameOf forge q v l ∈ p.namesOf forge v := by
  refine List.mem_flatMap.2 ⟨l, List.mem_filter.2 ⟨?_, hl⟩, List.mem_map_of_mem hq⟩
  cases l <;> decide

theorem mem_namesOf : x ∈ p.namesOf forge v ↔
    ∃ l q, isPackaged v l = true ∧ q ∈ p.platforms ∧ x = nameOf forge q v l := by
  constructor
  · intro hx
    obtain ⟨l, hl, hx⟩ := List.mem_flatMap.1 hx
    obtain ⟨q, hq, rfl⟩ := List.mem_map.1 hx
    exact ⟨l, q, (List.mem_filter.1 hl).2, hq, rfl⟩
  · rintro ⟨l, q, hl, hq, rfl⟩
    exact nameOf_mem hl hq

theorem nameOf_eq_iff : nameOf forge q v l = nameOf forge q' v' l' ↔
    archiveExtension q.packagedName = archiveExtension q'.packagedName ∧
      front forge q v ++ l.suffix = front forge q' v' ++ l'.suffix := by
  have hfront (q : Platform) (v : String) (l : Linkage) :
      packagedName q.id ++ "-" ++ packageVersion v (shortCommit (commitOf forge v)) l =
        front forge q v ++ l.suffix := by
    simp only [front, packageVersion, Platform.packagedName, String.append_assoc]
  rw [nameOf, nameOf, tarballName_eq_iff, hfront, hfront]
  rfl

/-! ## Packages of one version -/

theorem front_eq_iff : front forge q v = front forge q' v ↔ q.packagedName = q'.packagedName := by
  refine ⟨fun h => ?_, fun h => by rw [front, front, h]⟩
  have hlist := congrArg String.toList h
  simp only [front, String.toList_append] at hlist
  exact String.toList_inj.1 (List.append_cancel_right (List.append_cancel_right hlist))

/-- Whatever the commit is: the suffix of static builds has no `m`. -/
theorem front_ne_front_static :
    front forge q mainVersion ≠ front forge q' mainVersion ++ Linkage.static.suffix := by
  intro h
  have hlist := congrArg String.toList h
  simp only [front, String.toList_append] at hlist
  refine append_ne_append_of_mem (m := 'm') (a := q.packagedName.toList)
    (b := q'.packagedName.toList ++ "-main-".toList) (w := "-main-".toList)
    (y := Linkage.static.suffix.toList) (s := (shortCommit (commitOf forge mainVersion)).toList)
    (by decide) (by decide) (by decide) ?_
  simpa [mainVersion] using hlist

theorem nodup_namesOf_iff :
    (p.namesOf forge v).Nodup ↔ (p.platforms.map (·.packagedName)).Nodup := by
  have hlinkage (l : Linkage) : (p.platforms.map fun q => nameOf forge q v l).Nodup ↔
      (p.platforms.map (·.packagedName)).Nodup := by
    rw [List.nodup_iff_pairwise_ne, List.nodup_iff_pairwise_ne, List.pairwise_map,
      List.pairwise_map]
    refine List.Pairwise.iff fun q q' => not_congr ?_
    rw [nameOf_eq_iff, String.append_left_inj, front_eq_iff]
    exact ⟨And.right, fun h => ⟨by rw [h], h⟩⟩
  rw [namesOf, List.nodup_iff_pairwise_ne, List.pairwise_flatMap]
  constructor
  · rintro ⟨heach, -⟩
    exact (hlinkage .static).1 (heach .static (List.mem_filter.2 ⟨by decide, rfl⟩))
  · intro hnd
    refine ⟨fun l _ => (hlinkage l).2 hnd, ?_⟩
    have hall : Linkage.all.Pairwise fun l l' => l = .dynamic ∧ l' = .static := by decide
    refine (hall.filter _).imp_of_mem ?_
    rintro _ _ hmem - ⟨rfl, rfl⟩ x hx y hy rfl
    obtain ⟨q, -, rfl⟩ := List.mem_map.1 hx
    obtain ⟨q', -, h⟩ := List.mem_map.1 hy
    have hmain : v = mainVersion := by simpa [isPackaged] using (List.mem_filter.1 hmem).2
    rw [nameOf_eq_iff, hmain] at h
    exact front_ne_front_static (by simpa [Linkage.suffix] using h.2.symm)

/-- Whether a platform and another that goes by its name are both listed. -/
def ListsAlias (p : Plan) : Prop :=
  "linux-aarch64" ∈ p.platforms.map (·.id) ∧ "linux-arm64" ∈ p.platforms.map (·.id)

theorem nodup_packagedNames_iff (h : (p.platforms.map (·.id)).Nodup) :
    (p.platforms.map (·.packagedName)).Nodup ↔ ¬ p.ListsAlias := by
  have hmap : p.platforms.map (·.packagedName) = (p.platforms.map (·.id)).map packagedName := by
    rw [List.map_map]
    rfl
  rw [hmap, List.nodup_map_iff_inj_on h]
  constructor
  · rintro hinj ⟨haarch, harm⟩
    exact absurd (hinj _ haarch _ harm (by decide)) (by decide)
  · intro halias id hid id' hid' heq
    rcases packagedName_eq_iff.1 heq with h | ⟨rfl, rfl⟩ | ⟨rfl, rfl⟩
    · exact h
    · exact absurd ⟨hid, hid'⟩ halias
    · exact absurd ⟨hid', hid⟩ halias

/-! ## Packages of several versions -/

/-- Whether the packages of different versions are named differently: the static builds of both, and
a shared build of the default branch and a static one. -/
def KeepsApart (p : Plan) (forge : Forge) : Prop :=
  ∀ v ∈ p.versions, ∀ v' ∈ p.versions, v ≠ v' → ∀ q ∈ p.platforms, ∀ q' ∈ p.platforms,
    archiveExtension q.packagedName = archiveExtension q'.packagedName →
      front forge q v ≠ front forge q' v' ∧
        (v = mainVersion → front forge q v ≠ front forge q' v' ++ Linkage.static.suffix)

theorem keepsApart_iff_names : p.KeepsApart forge ↔
    ∀ v ∈ p.versions, ∀ v' ∈ p.versions, v ≠ v' →
      ∀ x ∈ p.namesOf forge v, ∀ y ∈ p.namesOf forge v', x ≠ y := by
  have hshared : Linkage.dynamic.suffix = "" := rfl
  have hpackaged {v : String} (h : isPackaged v .dynamic = true) : v = mainVersion := by
    simpa [isPackaged] using h
  constructor
  · rintro h v hv v' hv' hne _ hx _ hy heq
    obtain ⟨l, q, hl, hq, rfl⟩ := mem_namesOf.1 hx
    obtain ⟨l', q', hl', hq', rfl⟩ := mem_namesOf.1 hy
    obtain ⟨hext, hfront⟩ := nameOf_eq_iff.1 heq
    cases l <;> cases l'
    case dynamic.dynamic => exact hne ((hpackaged hl).trans (hpackaged hl').symm)
    case dynamic.static =>
      rw [hshared, String.append_empty] at hfront
      exact (h v hv v' hv' hne q hq q' hq' hext).2 (hpackaged hl) hfront
    case static.dynamic =>
      rw [hshared, String.append_empty] at hfront
      exact (h v' hv' v hv hne.symm q' hq' q hq hext.symm).2 (hpackaged hl') hfront.symm
    case static.static =>
      exact (h v hv v' hv' hne q hq q' hq' hext).1 ((String.append_left_inj _).1 hfront)
  · intro h v hv v' hv' hne q hq q' hq' hext
    constructor
    · intro hfront
      refine h v hv v' hv' hne _ (nameOf_mem (l := .static) rfl hq) _
        (nameOf_mem (l := .static) rfl hq') ?_
      exact nameOf_eq_iff.2 ⟨hext, by rw [hfront]⟩
    · intro hmain hfront
      have hl : isPackaged v .dynamic = true := by rw [hmain]; rfl
      refine h v hv v' hv' hne _ (nameOf_mem hl hq) _ (nameOf_mem (l := .static) rfl hq') ?_
      exact nameOf_eq_iff.2 ⟨hext, by rw [hshared, String.append_empty, hfront]⟩

/-- **For commits that are hashes**, packages of different versions share a name when they are built
from one short commit and the names of platform and version run together alike. -/
theorem keepsApart_iff (hhash : ∀ v ∈ p.versions,
      '-' ∉ (shortCommit (commitOf forge v)).toList ∧ shortCommit (commitOf forge v) ≠ "static") :
    p.KeepsApart forge ↔
      ∀ v ∈ p.versions, ∀ v' ∈ p.versions, v ≠ v' → ∀ q ∈ p.platforms, ∀ q' ∈ p.platforms,
        archiveExtension q.packagedName = archiveExtension q'.packagedName →
          shortCommit (commitOf forge v) = shortCommit (commitOf forge v') →
            q.packagedName ++ "-" ++ v ≠ q'.packagedName ++ "-" ++ v' := by
  have hlist (q : Platform) (v : String) : (front forge q v).toList =
      (q.packagedName ++ "-" ++ v).toList ++ '-' :: (shortCommit (commitOf forge v)).toList := by
    simp [front]
  constructor
  · intro h v hv v' hv' hne q hq q' hq' hext hcommit hnames
    refine (h v hv v' hv' hne q hq q' hq' hext).1 (String.toList_inj.1 ?_)
    rw [hlist, hlist, hnames, hcommit]
  · intro h v hv v' hv' hne q hq q' hq' hext
    refine ⟨fun hfront => ?_, fun _ hfront => (hhash v hv).2 ?_⟩
    · have heq := congrArg String.toList hfront
      rw [hlist, hlist] at heq
      obtain ⟨hnames, hcommit⟩ := eq_of_append_mark (hhash v hv).1 (hhash v' hv').1 heq
      exact h v hv v' hv' hne q hq q' hq' hext (String.toList_inj.1 hcommit)
        (String.toList_inj.1 hnames)
    · have heq := congrArg String.toList hfront
      have hstatic : (front forge q' v' ++ Linkage.static.suffix).toList =
          (front forge q' v').toList ++ '-' :: "static".toList := String.toList_append
      rw [hlist, hstatic] at heq
      exact String.toList_inj.1 (eq_of_append_mark (hhash v hv).1 (by decide) heq).2

/-! ## The packages of a matrix -/

variable {builds : List Build} {j j' : Journal}

theorem map_tarball_generate (h : p.generate forge j = (.ok builds, j')) :
    builds.map (·.tarball) = p.versions.flatMap (p.namesOf forge) := by
  obtain ⟨published, -, -, rfl⟩ := generate_ok h
  rw [List.map_flatMap]
  exact congrArg p.versions.flatMap (funext fun v => map_tarball_buildsOf)

theorem nodup_tarballs_of_usable (hu : p.Usable) (h : p.generate forge j = (.ok builds, j')) :
    (builds.map (·.tarball)).Nodup ↔ ¬ p.ListsAlias ∧ p.KeepsApart forge := by
  have hversion (v : String) : (p.namesOf forge v).Nodup ↔ ¬ p.ListsAlias :=
    nodup_namesOf_iff.trans (nodup_packagedNames_iff hu.nodup_ids)
  rw [map_tarball_generate h, List.nodup_flatMap, keepsApart_iff_names]
  constructor
  · rintro ⟨heach, hdisjoint⟩
    have : Std.Symm (Function.onFun List.Disjoint (p.namesOf forge)) :=
      ⟨fun _ _ h x hx hx' => h hx' hx⟩
    obtain ⟨v, hv⟩ := List.exists_mem_of_ne_nil _ hu.versions_ne
    refine ⟨(hversion v).1 (heach v hv), fun v hv v' hv' hne x hx y hy heq => ?_⟩
    exact hdisjoint.forall hv hv' hne hx (heq ▸ hy)
  · rintro ⟨halias, happart⟩
    refine ⟨fun v _ => (hversion v).2 halias, ?_⟩
    refine hu.nodup_versions.pairwise_of_forall_ne fun v hv v' hv' hne x hx hx' => ?_
    exact happart v hv v' hv' hne x hx x hx' rfl

/-- Packages of one matrix have one path in a release only if they have one name. -/
theorem packagePath_inj {b c : Build} (h : p.generate forge j = (.ok builds, j'))
    (layout : Layout) (hb : b ∈ builds) (hc : c ∈ builds) :
    layout.packagePath b = layout.packagePath c ↔ b.tarball = c.tarball := by
  obtain ⟨published, hnames⟩ := names_of_generate h
  have hrelative : ∀ b ∈ builds, Path.isAbsolute b.tarball = false := by
    intro b hb
    obtain ⟨⟨id, version, ht⟩, -⟩ := hnames b hb
    rw [Path.isAbsolute, ht, head?_tarballName]
    decide
  exact Path.join_inj (hrelative b hb) (hrelative c hc)

theorem nodup_packagePaths_iff (h : p.generate forge j = (.ok builds, j')) (layout : Layout) :
    (builds.map layout.packagePath).Nodup ↔ (builds.map (·.tarball)).Nodup := by
  rw [List.nodup_iff_pairwise_ne, List.nodup_iff_pairwise_ne, List.pairwise_map, List.pairwise_map]
  exact List.Pairwise.iff_of_mem fun hb hc => not_congr (packagePath_inj h layout hb hc)

/-- **The packages of a matrix have distinct names**, and so distinct paths in a release, exactly
when no platform of the plan goes by the name of another and different versions are kept apart. They
are if commits are hashes, unless two versions at one short commit have names that, put after a
platform's, run together alike. -/
theorem nodup_tarballs_iff (hvalid : p.validate = .ok ())
    (h : p.generate forge j = (.ok builds, j')) :
    ((builds.map (·.tarball)).Nodup ↔ ¬ p.ListsAlias ∧ p.KeepsApart forge) ∧
      (∀ layout : Layout,
        (builds.map layout.packagePath).Nodup ↔ ¬ p.ListsAlias ∧ p.KeepsApart forge) ∧
      ((∀ v ∈ p.versions,
          '-' ∉ (shortCommit (commitOf forge v)).toList ∧
            shortCommit (commitOf forge v) ≠ "static") →
        (p.KeepsApart forge ↔
          ∀ v ∈ p.versions, ∀ v' ∈ p.versions, v ≠ v' → ∀ q ∈ p.platforms, ∀ q' ∈ p.platforms,
            archiveExtension q.packagedName = archiveExtension q'.packagedName →
              shortCommit (commitOf forge v) = shortCommit (commitOf forge v') →
                q.packagedName ++ "-" ++ v ≠ q'.packagedName ++ "-" ++ v')) := by
  have hnames := nodup_tarballs_of_usable (validate_eq_ok_iff.1 hvalid) h
  exact ⟨hnames, fun layout => (nodup_packagePaths_iff h layout).trans hnames, keepsApart_iff⟩

/-! ### A platform listed twice -/

/-- A plan that lists a platform under its id and under its packaged name. -/
def twoNames : Plan where
  versions := ["1"]
  platforms := [{ id := "linux-aarch64", runner := "r", triplet := "x" },
    { id := "linux-arm64", runner := "r", triplet := "x" }]
  sourceRepository := "o/s"
  releaseRepository := "o/r"
  releaseTag := "t"

/-- A forge that has published nothing. -/
def emptyForge : Forge where
  key := "f"
  resolveRef _ := { outcome := .ok "c" }
  releaseAssets := { outcome := .ok (.ofList []) }

/-- The matrix of the plan: both builds are for the same package. -/
def twoNamesBuilds : List Build :=
  twoNames.platforms.map fun q => Build.derive q "1" "c" .static

theorem generate_twoNames :
    (twoNames.generate emptyForge {}).1.toOption = some twoNamesBuilds := by
  decide +kernel

theorem nodup_tarballs_iff_twoNames :
    twoNames.validate = .ok () ∧
    (∀ v ∈ twoNames.versions, '-' ∉ (shortCommit (commitOf emptyForge v)).toList ∧
      shortCommit (commitOf emptyForge v) ≠ "static") ∧
    ∃ j', twoNames.generate emptyForge {} = (.ok twoNamesBuilds, j') ∧
      ((twoNamesBuilds.map (·.tarball)).Nodup ↔
        ¬ twoNames.ListsAlias ∧ twoNames.KeepsApart emptyForge) ∧
      (∀ layout : Layout, (twoNamesBuilds.map layout.packagePath).Nodup ↔
        ¬ twoNames.ListsAlias ∧ twoNames.KeepsApart emptyForge) ∧
      twoNames.KeepsApart emptyForge := by
  have hgen := Action.eq_ok_of_toOption generate_twoNames
  have hhash : ∀ v ∈ twoNames.versions, '-' ∉ (shortCommit (commitOf emptyForge v)).toList ∧
      shortCommit (commitOf emptyForge v) ≠ "static" := by
    decide
  obtain ⟨hnames, hpaths, happart⟩ := nodup_tarballs_iff rfl hgen
  refine ⟨rfl, hhash, _, hgen, hnames, hpaths, (happart hhash).2 fun v hv v' hv' hne => ?_⟩
  rw [List.mem_singleton.1 hv, List.mem_singleton.1 hv'] at hne
  exact absurd rfl hne

/-- An accepted plan whose matrix has two builds for one package. -/
theorem twoNames_repeats :
    twoNames.validate = .ok () ∧
    (twoNames.generate emptyForge {}).1.toOption = some twoNamesBuilds ∧
    twoNamesBuilds.map (·.tarball) =
      ["tiledb-linux-arm64-1-c-static.tar.gz", "tiledb-linux-arm64-1-c-static.tar.gz"] ∧
    ¬ (twoNamesBuilds.map (·.tarball)).Nodup :=
  ⟨rfl, generate_twoNames, by decide, by decide⟩

end Plan

end Packaging
