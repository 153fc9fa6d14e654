import DepTriage.Proofs.LockFile.Change
import DepTriage.Proofs.LockFile.Pnpm.Written
import DepTriage.Proofs.LockFile.Yarn
import DepTriage.Proofs.Scan.Calls

/-!
# Names and versions of pinned dependencies

A registry can be asked for a dependency that has a name and a version. No lock file pins a version
that is empty: where one is missing the file is malformed. The names of pnpm-lock.yaml are looked at
in the same way, but not those of yarn.lock: a specifier that is empty or begins with a colon pins a
package without a name.

## Key results

- `Yarn.packageName_eq_nil_iff`: the specifiers that give an empty name
- `Yarn.version_ne_nil_of_mem_entries`: no version of an entry is empty
- `LockFormat.name_eq_empty_iff`: which lock files pin a package without a name
- `LockFormat.pins_usable_iff`: what is pinned, what is refused, and what a scan asks for
-/

namespace DepTriage

/-! ## Entries of yarn.lock -/

namespace Yarn

open DepTriage.Text

/-- No name stands in front of the range or the protocol of a specifier. -/
def LacksName (specifier : List Char) : Prop :=
  specifier = [] ∨ ∃ rest, specifier = ':' :: rest

theorem nameOfHead_eq_nil_iff {head : List Char} : nameOfHead head = [] ↔ head = [] := by
  rw [nameOfHead]
  split
  · next name range hcut =>
    obtain ⟨rfl, hname, -⟩ := splitSpecifier?_eq_some_iff.1 hcut
    exact iff_of_false hname (by simp)
  · exact Iff.rfl

/-- The name of a specifier is empty if nothing stands in front of its first colon. -/
theorem packageName_eq_nil_iff {specifier : List Char} :
    packageName specifier = [] ↔ LacksName specifier := by
  rw [packageName]
  cases hcut : splitFirst? ':' specifier with
  | none =>
    refine nameOfHead_eq_nil_iff.trans ⟨.inl, fun h => ?_⟩
    rcases h with hempty | ⟨rest, rfl⟩
    · exact hempty
    · have hfirst : splitFirst? ':' (':' :: rest) = some ([], rest) :=
        splitFirst?_eq_some_iff.2 ⟨List.not_mem_nil, rfl⟩
      exact nomatch hcut.symm.trans hfirst
  | some parts =>
    obtain ⟨head, rest⟩ := parts
    obtain ⟨hcolon, rfl⟩ := splitFirst?_eq_some_iff.1 hcut
    have hlacks : LacksName (head ++ ':' :: rest) ↔ head = [] := by
      cases head with
      | nil => exact iff_of_true (.inr ⟨rest, rfl⟩) rfl
      | cons c head =>
        have hc : c ≠ ':' := fun heq => hcolon (heq ▸ List.mem_cons_self)
        simp [LacksName, hc]
    rw [hlacks]
    dsimp only
    split
    · next hsuffix =>
      -- The head ends with `@npm`, and what an alias names is not empty.
      have hhead : head ≠ [] := by
        rintro rfl
        exact nomatch hsuffix
      split
      · next real version hreal =>
        exact iff_of_false (splitSpecifier?_eq_some_iff.1 hreal).2.1 hhead
      · exact nameOfHead_eq_nil_iff
    · exact nameOfHead_eq_nil_iff

theorem versionField?_ne_some_nil (line : List Char) : versionField? line ≠ some [] := by
  have hnonEmpty : ∀ value : List Char, versionField?.nonEmpty value ≠ some [] := by
    intro value
    cases value <;> exact nofun
  -- A field that is found gives a version only if this has a character.
  unfold versionField?
  split
  · split
    · exact hnonEmpty _
    · exact hnonEmpty _
    · exact nofun
  · exact nofun

theorem Line.ofText_ne_field_nil (raw : List Char) : ofText raw ≠ .field (some []) := by
  rw [ofText]
  split
  · exact nofun
  · exact nofun
  · split
    · exact fun h => versionField?_ne_some_nil _ (Line.field.inj h)
    · split <;> exact nofun

theorem versionBelow_ne_some_nil {lines : List Line} (h : Line.field (some []) ∉ lines) :
    versionBelow lines ≠ some [] := by
  -- Along the lines up to the next key: the first version that is given is a field of the lines.
  fun_induction versionBelow lines with
  | case1 => exact nofun
  | case2 => exact nofun
  | case3 version lines =>
    intro heq
    rw [Option.some.inj heq] at h
    exact h List.mem_cons_self
  | case4 lines ih => exact ih (List.not_mem_of_not_mem_cons h)
  | case5 lines ih => exact ih (List.not_mem_of_not_mem_cons h)
  | case6 text lines ih => exact ih (List.not_mem_of_not_mem_cons h)

theorem version_ne_nil_of_mem_entriesFrom {lines : List Line} {number : Nat}
    (h : Line.field (some []) ∉ lines) {e : Entry} (he : e ∈ entriesFrom lines number) :
    e.version ≠ some [] := by
  fun_induction entriesFrom lines number with
  -- The version of an entry is given in the lines below its key.
  | case1 => exact absurd he List.not_mem_nil
  | case2 entryKey lines number ih =>
    have hlines : Line.field (some []) ∉ lines := List.not_mem_of_not_mem_cons h
    rcases List.mem_cons.1 he with rfl | he
    · exact versionBelow_ne_some_nil hlines
    · exact ih hlines he
  | case3 version lines number ih => exact ih (List.not_mem_of_not_mem_cons h) he
  | case4 lines number ih => exact ih (List.not_mem_of_not_mem_cons h) he
  | case5 text lines number ih => exact ih (List.not_mem_of_not_mem_cons h) he

/-- A version that is given is not empty: an empty one counts as none. -/
theorem version_ne_nil_of_mem_entries {content : List Char} {e : Entry} (he : e ∈ entries content) :
    e.version ≠ some [] := by
  refine version_ne_nil_of_mem_entriesFrom (fun hmem => ?_) he
  obtain ⟨raw, -, hraw⟩ := List.mem_map.1 hmem
  exact Line.ofText_ne_field_nil raw hraw

/-- An entry gives the package that its first specifier names, in its version. -/
theorem Entry.gives_iff {e : Entry} {k : DependencyKey} :
    e.Gives k ↔ ¬e.IsPassedOver ∧ e.version = some k.version.toList ∧
      packageName (firstSpecifier e.key) = k.name.toList := by
  by_cases hskip : e.IsPassedOver
  -- An entry that is passed over leaves the empty set as it is.
  · refine iff_of_false ?_ fun h => h.1 hskip
    rintro ⟨set, hadd, hmem⟩
    obtain rfl := Except.ok.inj ((addTo_of_isPassedOver hskip {}).symm.trans hadd)
    exact DependencySet.not_mem_empty hmem
  -- Any other entry adds one dependency, which has its version and the package of its first
  -- specifier.
  · rw [and_iff_right hskip, Gives, addTo]
    have hspecifier : ¬(firstSpecifier e.key = metadataEntry ∨
      isLocal (firstSpecifier e.key) = true) := hskip
    simp only [if_neg hspecifier]
    obtain ⟨name, version⟩ := k
    cases e.version with
    | none =>
      refine iff_of_false ?_ ?_
      · rintro ⟨_, hadd, -⟩
        cases hadd
      · rintro ⟨hversion, -⟩
        cases hversion
    | some given =>
      simp only [Except.ok.injEq, exists_eq_left', DependencySet.mem_insert,
        DependencySet.not_mem_empty, or_false, DependencyKey.mk.injEq, Option.some.injEq,
        ← String.toList_inj, String.toList_ofList]
      exact and_comm

/-- An entry that pins a package without a name. -/
def Entry.LacksName (e : Entry) : Prop :=
  Yarn.LacksName (firstSpecifier e.key) ∧ ¬e.IsPassedOver

/-- An entry that should give a version, and does not. -/
def Entry.LacksVersion (e : Entry) : Prop :=
  e.version = none ∧ ¬e.IsPassedOver

variable {content : List Char} {set : DependencySet}

/-- Every entry that is not passed over gives a version. -/
theorem not_lacksVersion_of_read (h : read content = .ok set) :
    ∀ e ∈ entries content, ¬e.LacksVersion := by
  rintro e he ⟨hversion, hskip⟩
  obtain ⟨before, after, hadd⟩ := exists_addTo_of_addEntries (addEntries_of_read h) he
  obtain ⟨k, -, hgives⟩ := Entry.addTo_of_not_isPassedOver hskip hadd
  have hk : e.Gives k := ⟨_, hgives {}, DependencySet.mem_insert.2 (.inl rfl)⟩
  exact nomatch hversion.symm.trans (Entry.gives_iff.1 hk).2.1

theorem version_ne_empty_of_read (h : read content = .ok set) {k : DependencyKey} (hk : k ∈ set) :
    k.version ≠ "" := by
  rw [mem_addEntries (addEntries_of_read h)] at hk
  obtain ⟨e, he, hgives⟩ := hk.resolve_left DependencySet.not_mem_empty
  intro hempty
  obtain ⟨-, hversion, -⟩ := Entry.gives_iff.1 hgives
  rw [hempty] at hversion
  exact version_ne_nil_of_mem_entries he hversion

/-- A package without a name is pinned by an entry that lacks one. -/
theorem exists_name_eq_empty_iff (h : read content = .ok set) :
    (∃ k ∈ set, k.name = "") ↔ ∃ e ∈ entries content, e.LacksName := by
  constructor
  · rintro ⟨k, hk, hname⟩
    rw [mem_addEntries (addEntries_of_read h)] at hk
    obtain ⟨e, he, hgives⟩ := hk.resolve_left DependencySet.not_mem_empty
    obtain ⟨hskip, -, hpackage⟩ := Entry.gives_iff.1 hgives
    rw [hname] at hpackage
    exact ⟨e, he, packageName_eq_nil_iff.1 hpackage, hskip⟩
  · rintro ⟨e, he, hlacks, hskip⟩
    -- The lock file is read, so that the entry has a version to pin.
    cases hversion : e.version with
    | none => exact absurd ⟨hversion, hskip⟩ (not_lacksVersion_of_read h e he)
    | some version =>
      refine ⟨⟨"", String.ofList version⟩, ?_, rfl⟩
      rw [mem_addEntries (addEntries_of_read h)]
      refine .inr ⟨e, he, Entry.gives_iff.2 ⟨hskip, ?_, packageName_eq_nil_iff.2 hlacks⟩⟩
      rw [hversion, String.toList_ofList]

end Yarn

/-! ## Keys of pnpm-lock.yaml -/

namespace Pnpm

variable {content : List Char} {major : Nat} {keys : List String} {set : DependencySet}

/-- A key without name or without version: one that is cut into two parts of which one is empty, or
that begins with the `@` in front of its version. -/
inductive LacksPart (major : Nat) (key : String) : Prop
  | cut {name version : List Char} (hcut : cut major (bareKey key.toList) = .package name version)
    (hempty : name = [] ∨ version = [])
  | sign {version : List Char} (hmajor : 6 ≤ major) (hkey : bareKey key.toList = '@' :: version)
    (hsign : '@' ∉ version) (hslash : '/' ∉ version)

theorem readKey_of_lacksPart {key : String} (h : LacksPart major key) :
    readKey major key.toList = .noVersion := by
  rw [readKey_eq_cut]
  cases h with
  | cut hcut hempty =>
    rw [hcut]
    exact if_pos hempty
  | @sign version hmajor hkey hsign hslash =>
    -- A sign in front of nothing but the version leaves an empty name, which is no cut.
    have hsplit : Text.splitLast? '@' ('@' :: version) = some ([], version) :=
      Text.splitLast?_eq_some_iff.2 ⟨hsign, rfl⟩
    have hcut : Pnpm.cut major ('@' :: version) = .noVersion := by
      rw [Pnpm.cut, if_neg (Nat.not_lt.2 hmajor), splitAtSign, hsplit]
      show (if ('@' :: version).contains '/' then KeyReading.elsewhere else .noVersion) = .noVersion
      exact if_neg (by simpa using hslash)
    rw [hkey, hcut]

/-- No key of a lock file that is read lacks its name or its version. -/
theorem not_lacksPart_of_read (h : read content = .ok set) (hkeys : HasKeys content major keys) :
    ∀ key ∈ keys, ¬LacksPart major key := by
  intro key hkey hlacks
  obtain ⟨major', keys', hkeys', hversions, -⟩ := exists_hasKeys_of_read h
  obtain ⟨rfl, hmem⟩ := hkeys.unique hkeys'
  exact hversions key ((hmem key).1 hkey) (readKey_of_lacksPart hlacks)

theorem ne_empty_of_read (h : read content = .ok set) {k : DependencyKey} (hk : k ∈ set) :
    k.name ≠ "" ∧ k.version ≠ "" := by
  obtain ⟨major, keys, -, -, hmem⟩ := exists_hasKeys_of_read h
  obtain ⟨key, -, hgives⟩ := (hmem k).1 hk
  obtain ⟨-, hname, hversion, -⟩ := readKey_eq_package_iff.1 hgives
  exact ⟨fun heq => hname (by rw [heq]; rfl), fun heq => hversion (by rw [heq]; rfl)⟩

end Pnpm

/-! ## Lock files -/

/-- A call that names a package is about a dependency that is scanned. -/
theorem exists_scanned_of_call {σ : Type} {registry : PackageRegistry (StateM σ)}
    {settings : ScanSettings} {change : DependencySet} {s : σ} {call : SourceCall}
    (hcall : call ∈ (scanChange registry.logged settings change [] s).1.2) {name : String}
    (hname : call.package? = some name) :
    ∃ k ∈ change.scanned settings.ignore, k.name = name := by
  rw [scanChange_logs change [] s] at hcall
  obtain ⟨k, hk, hcall⟩ := List.mem_flatMap.1 hcall
  exact ⟨k, reached_subset _ _ _ hk, ((packageCalls_traced k _).package?_eq hcall hname).symm⟩

namespace LockFormat

variable {format : LockFormat} {content : String} {set : DependencySet}

private theorem eq_ok_of_mapError {ε ε' α : Type} {x : Except ε α} {f : ε → ε'} {a : α}
    (h : x.mapError f = .ok a) : x = .ok a := by
  cases x with
  | error e => exact nomatch h
  | ok b => exact congrArg Except.ok (Except.ok.inj h)

theorem version_ne_empty (h : format.read content = .ok set) {k : DependencyKey} (hk : k ∈ set) :
    k.version ≠ "" := by
  cases format with
  | yarn => exact Yarn.version_ne_empty_of_read (eq_ok_of_mapError h) hk
  | pnpm => exact (Pnpm.ne_empty_of_read (eq_ok_of_mapError h) hk).2

/-- Of the two formats only one can pin a package without a name. -/
theorem name_eq_empty_iff (h : format.read content = .ok set) :
    (∃ k ∈ set, k.name = "") ↔
      format = .yarn ∧ ∃ e ∈ Yarn.entries content.toList, e.LacksName := by
  cases format with
  | yarn => rw [Yarn.exists_name_eq_empty_iff (eq_ok_of_mapError h), and_iff_right rfl]
  | pnpm =>
    refine iff_of_false ?_ fun hyarn => nomatch hyarn.1
    rintro ⟨k, hk, hname⟩
    exact (Pnpm.ne_empty_of_read (eq_ok_of_mapError h) hk).1 hname

/-- What is missing in a lock file that is refused: the version of an entry, or a part of a key. -/
def LacksPart (format : LockFormat) (content : String) : Prop :=
  match format with
  | yarn => ∃ e ∈ Yarn.entries content.toList, e.LacksVersion
  | pnpm => ∃ major keys, Pnpm.HasKeys content.toList major keys ∧
      ∃ key ∈ keys, Pnpm.LacksPart major key

theorem exists_malformedLock_of_lacksPart (h : format.LacksPart content) :
    ∃ message, format.read content = .error (.malformedLock format message) := by
  cases hread : format.read content with
  | error e =>
    obtain ⟨message, rfl⟩ := exists_malformedLock hread
    exact ⟨message, rfl⟩
  | ok set =>
    -- Had the file been read, each of its parts would be there.
    cases format with
    | yarn =>
      obtain ⟨e, he, hlacks⟩ := h
      exact absurd hlacks (Yarn.not_lacksVersion_of_read (eq_ok_of_mapError hread) e he)
    | pnpm =>
      obtain ⟨major, keys, hkeys, key, hkey, hlacks⟩ := h
      exact absurd hlacks (Pnpm.not_lacksPart_of_read (eq_ok_of_mapError hread) hkeys key hkey)

/-- No lock file pins an empty version, and none pins an empty name but a yarn.lock with an entry
whose first specifier is empty or begins with a colon. Only then a scan of what is pinned asks for a
package without a name. Where a version is missing, or a part of a key, the lock file is
malformed. -/
theorem pins_usable_iff (format : LockFormat) (content : String) :
    (∀ set, format.read content = .ok set →
      (∀ k ∈ set, k.version ≠ "") ∧
      ((∃ k ∈ set, k.name = "") ↔
        format = .yarn ∧ ∃ e ∈ Yarn.entries content.toList, e.LacksName) ∧
      ∀ (σ : Type) (registry : PackageRegistry (StateM σ)) (settings : ScanSettings)
        (change : DependencySet) (s : σ), (∀ k ∈ change, k ∈ set) →
        (∀ k ∈ change.scanned settings.ignore, k.version ≠ "") ∧
        ∀ call ∈ (scanChange registry.logged settings change [] s).1.2,
          call.package? = some "" → ∃ k ∈ set, k.name = "") ∧
    (format.LacksPart content →
      ∃ message, format.read content = .error (.malformedLock format message)) := by
  refine ⟨fun set hread => ⟨fun k => version_ne_empty hread, name_eq_empty_iff hread, ?_⟩,
    exists_malformedLock_of_lacksPart⟩
  intro σ registry settings change s hchange
  refine ⟨fun k hk => ?_, fun call hcall hname => ?_⟩
  · exact version_ne_empty hread (hchange k (DependencySet.mem_scanned.1 hk).1)
  · obtain ⟨k, hk, hk'⟩ := exists_scanned_of_call hcall hname
    exact ⟨k, hchange k (DependencySet.mem_scanned.1 hk).1, hk'⟩

/-- What is pinned has a name here, so that no scan asks for a package without one; an entry without
version and a key without version are refused. -/
theorem pins_usable_lodash :
    (∃ set, yarn.read "lodash@^4.0.0:\n  version \"4.17.21\"\n" = .ok set ∧
      set.toList = [⟨"lodash", "4.17.21"⟩] ∧ (∀ k ∈ set, k.version ≠ "") ∧
      ¬(∃ k ∈ set, k.name = "") ∧
      ∀ call ∈ (scanChange PackageRegistry.empty.logged default set [] ()).1.2,
        call.package? ≠ some "") ∧
    (yarn.LacksPart "lodash@^4.0.0:\n  version \"\"\n" ∧
      ∃ message, yarn.read "lodash@^4.0.0:\n  version \"\"\n" =
        .error (.malformedLock .yarn message)) ∧
    (pnpm.LacksPart (String.ofList (Pnpm.written "9.0" ["lodash@"])) ∧
      ∃ message, pnpm.read (String.ofList (Pnpm.written "9.0" ["lodash@"])) =
        .error (.malformedLock .pnpm message)) := by
  refine ⟨?_, ?_, ?_⟩
  -- For the lock file that is read, the three statements follow from the theorem; for the others,
  -- it is enough that a part is missing.
  · have hlist : (yarn.read "lodash@^4.0.0:\n  version \"4.17.21\"\n").toOption.map
        DependencySet.toList = some [⟨"lodash", "4.17.21"⟩] := by decide +kernel
    obtain ⟨set, hread, hkeys⟩ := DependencySet.exists_eq_ok_of_toList hlist
    obtain ⟨hversion, hname, hscan⟩ := (pins_usable_iff _ _).1 set hread
    have hnamed : ¬∃ k ∈ set, k.name = "" := by
      rintro ⟨k, hk, hempty⟩
      rw [← DependencySet.mem_toList, hkeys, List.mem_singleton] at hk
      rw [hk] at hempty
      exact absurd hempty (by decide)
    refine ⟨set, hread, hkeys, hversion, hnamed, fun call hcall hempty => ?_⟩
    exact hnamed ((hscan Unit _ default set () fun _ hk => hk).2 call hcall hempty)
  · have hlacks : yarn.LacksPart "lodash@^4.0.0:\n  version \"\"\n" := by
      have hentry : (⟨"lodash@^4.0.0".toList, 1, none⟩ : Yarn.Entry) ∈
          Yarn.entries "lodash@^4.0.0:\n  version \"\"\n".toList := by decide +kernel
      refine ⟨_, hentry, rfl, ?_⟩
      rw [Yarn.Entry.IsPassedOver]
      decide +kernel
    exact ⟨hlacks, (pins_usable_iff _ _).2 hlacks⟩
  · have hlacks : pnpm.LacksPart (String.ofList (Pnpm.written "9.0" ["lodash@"])) := by
      have hversion : Pnpm.majorVersion? (.text "9.0") = some 9 := by decide +kernel
      have hcut : Pnpm.cut 9 (Pnpm.bareKey "lodash@".toList) = .package "lodash".toList [] := by
        decide +kernel
      refine ⟨9, ["lodash@"], ?_, "lodash@", by simp, .cut hcut (.inr rfl)⟩
      rw [String.toList_ofList]
      exact Pnpm.hasKeys_written hversion _
    exact ⟨hlacks, (pins_usable_iff _ _).2 hlacks⟩

/-- A key without specifier pins a package without a name, for which a scan asks; and so does one
whose specifier begins with a colon. -/
theorem unnamed_package_pinned :
    (∃ set, yarn.read "\"\":\n  version \"1.0.0\"\n" = .ok set ∧
      set.toList = [⟨"", "1.0.0"⟩] ∧
      (scanChange PackageRegistry.empty.logged default set [] ()).1.2 = [.metadata ""]) ∧
    (yarn.read "\":left-pad@^1.0.0\":\n  version \"1.0.0\"\n").toOption.map
      DependencySet.toList = some [⟨"", "1.0.0"⟩] := by
  have hlist : (yarn.read "\"\":\n  version \"1.0.0\"\n").toOption.map
      DependencySet.toList = some [⟨"", "1.0.0"⟩] := by decide +kernel
  obtain ⟨set, hread, hkeys⟩ := DependencySet.exists_eq_ok_of_toList hlist
  refine ⟨⟨set, hread, hkeys, ?_⟩, by decide +kernel⟩
  have hscanned : set.scanned (default : ScanSettings).ignore = [⟨"", "1.0.0"⟩] := by
    rw [DependencySet.scanned, hkeys]
    rfl
  rw [scanChange, hscanned]
  rfl

end LockFormat

end DepTriage
