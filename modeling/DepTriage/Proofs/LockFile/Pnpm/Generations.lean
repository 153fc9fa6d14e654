import DepTriage.LockFile.Change
import DepTriage.Proofs.LockFile.Pnpm.Written

/-!
# Generations of pnpm lock files

The format has written the same package in three ways, at whose marks names and peers may hold marks
of their own. Whatever way it is written, a package is read as its name and version, so that a lock
file may be brought to another version of the format without a change of dependencies.

## Key results

- `readKey_key`: a package is read as its name and version in every generation
- `generations_agree`: lock files of all generations pin what their packages are
-/

namespace DepTriage.Pnpm

open DepTriage.Text

/-! ## Packages -/

/-- A package with the version that it is pinned to. The marks that are left out are those at which
keys are cut. -/
structure PinnedPackage where
  name : List Char
  version : List Char
  /-- The peers that it was resolved with, if any. -/
  peers : Option (List Char)
  name_ne_nil : name ≠ []
  slash_name : name.head? ≠ some '/'
  parenthesis_name : '(' ∉ name
  version_ne_nil : version ≠ []
  mark_version : ∀ mark ∈ ['/', '_', '(', '@', ':'], mark ∉ version
  slash_peers : ∀ text ∈ peers, '/' ∉ text

/-- The ways to write a key, named for the versions of the format that brought them up. -/
inductive Generation where
  | five
  | six
  | nine
deriving DecidableEq, Repr

/-- The versions that read the keys of a generation. -/
def Generation.Fits : Generation → (major : Nat) → Prop
  | five, major => major < 6
  | six, major => 6 ≤ major
  | nine, major => 6 ≤ major

instance : (g : Generation) → (major : Nat) → Decidable (g.Fits major)
  | .five, major => inferInstanceAs (Decidable (major < 6))
  | .six, major => inferInstanceAs (Decidable (6 ≤ major))
  | .nine, major => inferInstanceAs (Decidable (6 ≤ major))

/-- The version of the format with which the keys of a generation are written. -/
def Generation.formatVersion : Generation → String
  | five => "5.4"
  | six => "6.0"
  | nine => "9.0"

theorem Generation.exists_majorVersion?_formatVersion (g : Generation) :
    ∃ major, majorVersion? (.text g.formatVersion) = some major ∧ g.Fits major := by
  cases g with
  | five => exact ⟨5, by decide +kernel, by decide⟩
  | six => exact ⟨6, by decide +kernel, by decide⟩
  | nine => exact ⟨9, by decide +kernel, by decide⟩

namespace PinnedPackage

def dependency (p : PinnedPackage) : DependencyKey :=
  ⟨String.ofList p.name, String.ofList p.version⟩

/-- Peers behind an underscore. -/
def peersBehindUnderscore (p : PinnedPackage) : List Char :=
  match p.peers with
  | none => []
  | some text => '_' :: text

/-- Peers in parentheses. -/
def peersInParentheses (p : PinnedPackage) : List Char :=
  match p.peers with
  | none => []
  | some text => '(' :: (text ++ [')'])

/-- The key of a package. -/
def key (p : PinnedPackage) : Generation → List Char
  | .five => '/' :: (p.name ++ '/' :: (p.version ++ p.peersBehindUnderscore))
  | .six => '/' :: (p.name ++ '@' :: (p.version ++ p.peersInParentheses))
  | .nine => p.name ++ '@' :: (p.version ++ p.peersInParentheses)

variable (p : PinnedPackage)

theorem exists_name_eq_cons : ∃ c cs, p.name = c :: cs ∧ c ≠ '/' := by
  have hne := p.name_ne_nil
  have hslash := p.slash_name
  cases hname : p.name with
  | nil => exact absurd hname hne
  | cons c cs =>
    rw [hname] at hslash
    exact ⟨c, cs, rfl, by simpa using hslash⟩

/-- The front of a key is its name, a mark and its version. -/
theorem bareKey_front (slashes : List Char) (hslashes : ∀ c ∈ slashes, c = '/') {mark : Char}
    (hmark : mark ≠ '(') (back : List Char) :
    bareKey (slashes ++ (p.name ++ mark :: (p.version ++ back))) =
      p.name ++ mark :: (p.version ++ beforeFirst '(' back) := by
  obtain ⟨c, cs, hname, hc⟩ := p.exists_name_eq_cons
  have hparenthesis : '(' ∉ p.name ++ mark :: p.version := by
    simpa [p.parenthesis_name, hmark.symm] using p.mark_version '(' (by decide)
  have hfront : ∃ c cs, p.name ++ mark :: p.version = c :: cs ∧ c ≠ '/' :=
    ⟨c, cs ++ mark :: p.version, by rw [hname]; rfl, hc⟩
  have hkey := bareKey_append hslashes hfront hparenthesis back
  simpa using hkey

theorem beforeFirst_peersInParentheses : beforeFirst '(' p.peersInParentheses = [] := by
  rw [peersInParentheses]
  cases p.peers with
  | none => rfl
  | some text => exact beforeFirst_cons_self '(' _

/-- The version ends where the peers start, and these hold no slash. -/
theorem peersBehindUnderscore_spec :
    '/' ∉ p.version ++ beforeFirst '(' p.peersBehindUnderscore ∧
      beforeFirst '_' (p.version ++ beforeFirst '(' p.peersBehindUnderscore) = p.version := by
  have hslash : '/' ∉ p.version := p.mark_version '/' (by decide)
  have hunderscore : '_' ∉ p.version := p.mark_version '_' (by decide)
  -- Behind the version stand the peers, if any, up to the first parenthesis.
  rw [beforeFirst_append_of_not_mem hunderscore, peersBehindUnderscore]
  cases hpeers : p.peers with
  | none => simpa [beforeFirst] using hslash
  | some text =>
    have htext : '/' ∉ beforeFirst '(' text := fun hmem =>
      p.slash_peers text hpeers ((List.takeWhile_sublist _).subset hmem)
    have hback : beforeFirst '(' ('_' :: text) = '_' :: beforeFirst '(' text := rfl
    rw [hback, beforeFirst_cons_self]
    simpa [hslash] using htext

/-- The slash in front of a key means nothing. -/
theorem readKey_sign (slashes : List Char) (hslashes : ∀ c ∈ slashes, c = '/') {major : Nat}
    (h : 6 ≤ major) :
    readKey major (slashes ++ (p.name ++ '@' :: (p.version ++ p.peersInParentheses))) =
      .package p.name p.version := by
  have hcolon : ':' ∉ p.version := p.mark_version ':' (by decide)
  have hsign : '@' ∉ p.version := p.mark_version '@' (by decide)
  have hcut : ∀ bare, cut major bare = splitAtSign bare := fun _ => if_neg (Nat.not_lt.2 h)
  refine readKey_eq_package_iff.2 ⟨?_, p.name_ne_nil, p.version_ne_nil, hcolon⟩
  rw [p.bareKey_front slashes hslashes (by decide), hcut, beforeFirst_peersInParentheses,
    List.append_nil]
  exact splitAtSign_eq_package_iff.2 ⟨rfl, hsign, p.name_ne_nil⟩

theorem readKey_slash {major : Nat} (h : major < 6) :
    readKey major (p.key .five) = .package p.name p.version := by
  have hcolon : ':' ∉ p.version := p.mark_version ':' (by decide)
  -- Generation five cuts at the last slash, so the version and the peers must hold none.
  have hcut : ∀ bare, cut major bare = splitAtSlash bare := fun _ => if_pos h
  have hbare : bareKey (p.key .five) = _ :=
    p.bareKey_front ['/'] (by simp) (by decide) p.peersBehindUnderscore
  obtain ⟨hslash, hversion⟩ := p.peersBehindUnderscore_spec
  refine readKey_eq_package_iff.2 ⟨?_, p.name_ne_nil, p.version_ne_nil, hcolon⟩
  rw [hbare, hcut]
  exact splitAtSlash_eq_package_iff.2 ⟨_, rfl, hslash, hversion.symm⟩

/-- A package is read as its name and version, however it is written. -/
theorem readKey_key {g : Generation} {major : Nat} (h : g.Fits major) :
    readKey major (p.key g) = .package p.name p.version := by
  cases g with
  | five => exact p.readKey_slash h
  | six => exact p.readKey_sign ['/'] (by simp) h
  | nine => exact p.readKey_sign [] (by simp) h

end PinnedPackage

/-! ## Lock files -/

/-- The keys of packages in a generation. -/
def keysOf (g : Generation) (packages : List PinnedPackage) : List String :=
  packages.map fun p => String.ofList (p.key g)

/-- `content` is a lock file of a generation with the given packages. -/
def Pins (content : List Char) (g : Generation) (packages : List PinnedPackage) : Prop :=
  ∃ major, g.Fits major ∧ HasKeys content major (keysOf g packages)

theorem exists_gives_iff {g : Generation} {major : Nat} (h : g.Fits major)
    (packages : List PinnedPackage) (k : DependencyKey) :
    (∃ key ∈ keysOf g packages, Gives major key k) ↔ k ∈ packages.map PinnedPackage.dependency := by
  have hgives : ∀ p : PinnedPackage,
      Gives major (String.ofList (p.key g)) k ↔ p.dependency = k := by
    intro p
    obtain ⟨name, version⟩ := k
    simp [Gives, p.readKey_key h, PinnedPackage.dependency, ← String.toList_inj]
  simp [keysOf, hgives]

/-- A lock file of any generation can be read. -/
theorem Pins.exists_read_eq_ok {content : List Char} {g : Generation}
    {packages : List PinnedPackage} (h : Pins content g packages) :
    ∃ set, read content = .ok set ∧ ∀ k, k ∈ set ↔ k ∈ packages.map PinnedPackage.dependency := by
  obtain ⟨major, hfits, hkeys⟩ := h
  -- A key of the generation is read as its own package, never as one without a version.
  have hversions : ∀ key ∈ keysOf g packages, readKey major key.toList ≠ .noVersion := by
    intro key hkey
    obtain ⟨p, -, rfl⟩ := List.mem_map.1 hkey
    rw [String.toList_ofList, p.readKey_key hfits]
    exact nofun
  obtain ⟨set, hset, hmem⟩ := Pnpm.exists_read_eq_ok hkeys hversions
  exact ⟨set, hset, fun k => (hmem k).trans (exists_gives_iff hfits packages k)⟩

/-- Between lock files that are read as the same dependencies, no dependency is introduced. -/
theorem introduced_eq_ok_nil {path old new : String} {oldSet newSet : DependencySet}
    (hold : read old.toList = .ok oldSet) (hnew : read new.toList = .ok newSet)
    (hsame : ∀ k, k ∈ oldSet ↔ k ∈ newSet) :
    ∃ set, LockFileChange.introduced ⟨path, .pnpm, some old, new⟩ = .ok set ∧ set.toList = [] := by
  refine ⟨newSet.difference oldSet, ?_, ?_⟩
  · simp [LockFileChange.introduced, LockFormat.read, hold, hnew, Except.mapError]
    rfl
  · refine List.eq_nil_iff_forall_not_mem.2 fun k hk => ?_
    obtain ⟨hmem, hnot⟩ := DependencySet.mem_difference.1 (DependencySet.mem_toList.1 hk)
    exact hnot ((hsame k).2 hmem)

/-- Lock files of all generations can be written for all packages, and each is read as the set of
its packages. Between two of them with the same dependencies, none is introduced in either
direction. -/
theorem generations_agree (g other : Generation) (packages others : List PinnedPackage)
    (hsame : ∀ k, k ∈ packages.map PinnedPackage.dependency ↔
      k ∈ others.map PinnedPackage.dependency) :
    Pins (written g.formatVersion (keysOf g packages)) g packages ∧
    ∀ path old new : String, Pins old.toList g packages → Pins new.toList other others →
      (∃ set, read old.toList = .ok set ∧ set.toList =
        (DependencySet.ofList (packages.map PinnedPackage.dependency)).toList) ∧
      (∃ set, LockFileChange.introduced ⟨path, .pnpm, some old, new⟩ = .ok set ∧
        set.toList = []) ∧
      ∃ set, LockFileChange.introduced ⟨path, .pnpm, some new, old⟩ = .ok set ∧
        set.toList = [] := by
  constructor
  · obtain ⟨major, hversion, hfits⟩ := g.exists_majorVersion?_formatVersion
    exact ⟨major, hfits, hasKeys_written hversion _⟩
  · intro path old new hold hnew
    obtain ⟨oldSet, hreadOld, hmemOld⟩ := hold.exists_read_eq_ok
    obtain ⟨newSet, hreadNew, hmemNew⟩ := hnew.exists_read_eq_ok
    -- Both documents pin the same dependencies, so that neither adds to the other.
    have hsets : ∀ k, k ∈ oldSet ↔ k ∈ newSet :=
      fun k => (hmemOld k).trans ((hsame k).trans (hmemNew k).symm)
    have hlist : oldSet.toList =
        (DependencySet.ofList (packages.map PinnedPackage.dependency)).toList :=
      DependencySet.toList_eq_of_mem_iff fun k =>
        (hmemOld k).trans DependencySet.mem_ofList.symm
    exact ⟨⟨oldSet, hreadOld, hlist⟩, introduced_eq_ok_nil hreadOld hreadNew hsets,
      introduced_eq_ok_nil hreadNew hreadOld fun k => (hsets k).symm⟩

/-- A package in whose name and peers there are the marks at which keys are cut. -/
def scopedPackage : PinnedPackage where
  name := "@scope/my_lib".toList
  version := "1.0.0".toList
  peers := some "react@18.2.0".toList
  name_ne_nil := by decide
  slash_name := by decide
  parenthesis_name := by decide
  version_ne_nil := by decide
  mark_version := by simp
  slash_peers := by decide

/-- A lock file with `scopedPackage` may be brought from version 5.4 to version 9.0. -/
theorem scopedPackage_generations :
    keysOf .five [scopedPackage] = ["/@scope/my_lib/1.0.0_react@18.2.0"] ∧
    keysOf .nine [scopedPackage] = ["@scope/my_lib@1.0.0(react@18.2.0)"] ∧
    (∃ set, read (written "5.4" (keysOf .five [scopedPackage])) = .ok set ∧
      set.toList = [⟨"@scope/my_lib", "1.0.0"⟩]) ∧
    ∃ set, LockFileChange.introduced ⟨"pnpm-lock.yaml", .pnpm,
        some (String.ofList (written "5.4" (keysOf .five [scopedPackage]))),
        String.ofList (written "9.0" (keysOf .nine [scopedPackage]))⟩ = .ok set ∧
      set.toList = [] := by
  have hfive := generations_agree .five .nine [scopedPackage] [scopedPackage] fun _ => Iff.rfl
  have hnine := (generations_agree .nine .five [scopedPackage] [scopedPackage] fun _ => Iff.rfl).1
  -- Both files are written here, so that they are files of these packages holds by construction.
  obtain ⟨hread, hchange, -⟩ := hfive.2 "pnpm-lock.yaml"
    (String.ofList (written "5.4" (keysOf .five [scopedPackage])))
    (String.ofList (written "9.0" (keysOf .nine [scopedPackage])))
    (by rw [String.toList_ofList]; exact hfive.1) (by rw [String.toList_ofList]; exact hnine)
  obtain ⟨set, hset, hlist⟩ := hread
  rw [String.toList_ofList] at hset
  have hdependency : (DependencySet.ofList ([scopedPackage].map PinnedPackage.dependency)).toList =
      [⟨"@scope/my_lib", "1.0.0"⟩] := by decide +kernel
  exact ⟨by decide, by decide, ⟨set, hset, hlist.trans hdependency⟩, hchange⟩

end DepTriage.Pnpm
