import DepTriage.Proofs.LockFile.Change
import DepTriage.Proofs.Scan.Batch
import Mathlib.Data.List.Forall2

/-!
# Scans of lock files

A scan of lock files takes up each dependency that one of them introduces, once. A lock file that is
malformed introduces nothing and gets a note, and that is all it does to the scan.

## Key results

- `exists_introducedBy_eq_ok`: what lock files introduce together
- `scanLockFiles_apply`: a scan of lock files is a batch of what they introduce, with the notes on
  those that are malformed in front
- `scanLockFiles_isolates_malformed`: what a malformed lock file costs
-/

namespace DepTriage

variable {files : List LockFileChange} {keys : List DependencyKey}

namespace LockFileChange

/-- The note on a lock file that is malformed. -/
def malformedNote? (file : LockFileChange) : Option ScanFailure :=
  match file.introduced with
  | .ok _ => none
  | .error e => some ⟨file.path, some .diff, e.message⟩

/-- The note has the path of the lock file, and tells why it cannot be compared. -/
def Noted (file : LockFileChange) (note : ScanFailure) : Prop :=
  ∃ message, file.introduced = .error (.malformedLock file.format message) ∧
    note = ⟨file.path, some .diff, (ScanError.malformedLock file.format message).message⟩

theorem malformedNote?_of_isReadable {file : LockFileChange} (h : file.IsReadable) :
    file.malformedNote? = none := by
  rcases file.introduced_cases with ⟨change, hok, -, -⟩ | ⟨message, -, hmalformed⟩
  · rw [malformedNote?, hok]
  · exact absurd h hmalformed

theorem exists_malformedNote? {file : LockFileChange} (h : ¬file.IsReadable) :
    ∃ note, file.malformedNote? = some note ∧ file.Noted note := by
  rcases file.introduced_cases with ⟨change, -, hreadable, -⟩ | ⟨message, herror, -⟩
  · exact absurd hreadable h
  · refine ⟨_, ?_, message, herror, rfl⟩
    rw [malformedNote?, herror]

/-- The notes are on the malformed ones of the lock files, in their order. -/
theorem noted_filterMap_malformedNote? (files : List LockFileChange) :
    List.Forall₂ Noted (files.filter (¬·.IsReadable)) (files.filterMap malformedNote?) := by
  -- The notes and the unreadable files run in step.
  induction files with
  | nil => exact .nil
  | cons file files ih =>
    by_cases hfile : file.IsReadable
    · rw [List.filter_cons_of_neg (by simpa using hfile),
        List.filterMap_cons_none (malformedNote?_of_isReadable hfile)]
      exact ih
    · obtain ⟨note, hnote, hnoted⟩ := exists_malformedNote? hfile
      rw [List.filter_cons_of_pos (by simpa using hfile), List.filterMap_cons_some hnote]
      exact .cons hnoted ih

end LockFileChange

open LockFileChange

/-! ## What is introduced -/

/-- One more lock file adds either dependencies or a note. -/
theorem Introduced.exists_add_eq_ok (i : Introduced) (file : LockFileChange) :
    ∃ change, i.add file = .ok ⟨change, i.failures ++ file.malformedNote?.toList⟩ ∧
      ∀ key, key ∈ change ↔ key ∈ i.change ∨ file.Introduces key := by
  -- A file either reads, and adds its keys, or leaves a note and adds none.
  rcases file.introduced_cases with ⟨change, hok, -, hmem⟩ | ⟨message, herror, hmalformed⟩
  · refine ⟨i.change.union change, ?_, fun key => ?_⟩
    · rw [add, malformedNote?, hok]
      simp
    · rw [DependencySet.mem_union, hmem]
  · refine ⟨i.change, ?_, fun key => ?_⟩
    · rw [add, malformedNote?, herror]
      rfl
    · exact (or_iff_left fun h => hmalformed h.isReadable).symm

/-- Lock files introduce together what any of them introduces, and their notes are in order. -/
theorem exists_introducedBy_eq_ok (files : List LockFileChange) :
    ∃ change, introducedBy files = .ok ⟨change, files.filterMap malformedNote?⟩ ∧
      ∀ key, key ∈ change ↔ ∃ file ∈ files, file.Introduces key := by
  -- The start is general, as each file adds to what those before it have introduced.
  suffices ∀ i : Introduced, ∃ change,
      files.foldlM Introduced.add i = .ok ⟨change, i.failures ++ files.filterMap malformedNote?⟩ ∧
        ∀ key, key ∈ change ↔ key ∈ i.change ∨ ∃ file ∈ files, file.Introduces key by
    obtain ⟨change, hok, hmem⟩ := this {}
    refine ⟨change, hok, fun key => (hmem key).trans (or_iff_right ?_)⟩
    exact DependencySet.not_mem_empty
  induction files with
  | nil => exact fun i => ⟨i.change, by simp; rfl, by simp⟩
  | cons file files ih =>
    intro i
    obtain ⟨first, hadd, hfirst⟩ := i.exists_add_eq_ok file
    obtain ⟨change, hrest, hmem⟩ := ih ⟨first, i.failures ++ file.malformedNote?.toList⟩
    refine ⟨change, ?_, fun key => ?_⟩
    · rw [List.foldlM_cons, hadd]
      refine hrest.trans ?_
      rw [List.append_assoc]
      cases hnote : file.malformedNote? <;> simp [hnote]
    · rw [hmem, hfirst, or_assoc]
      simp

/-! ## Scans -/

section Registry

variable {σ : Type} {registry : PackageRegistry (StateM σ)} {settings : ScanSettings}

/-- The dependencies that are taken up are those that a lock file introduces and that are not
ignored, in ascending order. -/
structure TakesUp (settings : ScanSettings) (files : List LockFileChange)
    (keys : List DependencyKey) : Prop where
  ascending : keys.Pairwise DependencyKey.Precedes
  mem_iff : ∀ key, key ∈ keys ↔
    (∃ file ∈ files, file.Introduces key) ∧ settings.ignore.covers key.name = false

/-- The order of the lock files does not matter to this, nor does one that introduces nothing. -/
theorem TakesUp.congr {others : List LockFileChange} (h : TakesUp settings files keys)
    (hsame : ∀ key, (∃ file ∈ others, file.Introduces key) ↔ ∃ file ∈ files, file.Introduces key) :
    TakesUp settings others keys where
  ascending := h.ascending
  mem_iff key := by rw [h.mem_iff, hsame]

theorem exists_takesUp (settings : ScanSettings) (files : List LockFileChange) :
    ∃ keys, TakesUp settings files keys := by
  obtain ⟨change, -, hmem⟩ := exists_introducedBy_eq_ok files
  refine ⟨change.scanned settings.ignore, change.ascending_scanned _, fun key => ?_⟩
  rw [DependencySet.mem_scanned, hmem]

/-- A scan of lock files is a batch of the dependencies that it takes up, with the notes on
malformed lock files in front of those on dependencies. -/
theorem scanLockFiles_apply (h : TakesUp settings files keys) (s : σ) :
    scanLockFiles registry settings files s =
      ((scanAll registry settings keys s).1.map (·.addFailures (files.filterMap malformedNote?)),
        (scanAll registry settings keys s).2) := by
  obtain ⟨change, hok, hmem⟩ := exists_introducedBy_eq_ok files
  have hkeys : change.scanned settings.ignore = keys := by
    refine DependencyKey.eq_of_ascending (change.ascending_scanned _) h.ascending fun key => ?_
    rw [DependencySet.mem_scanned, hmem, h.mem_iff]
  rw [scanLockFiles, hok, ← hkeys]
  rfl

theorem scanLockFiles_eq_error_iff (h : TakesUp settings files keys) (s : σ) {e : ScanError} :
    (scanLockFiles registry settings files s).1 = .error e ↔ settings.batchMode = .failFast ∧
      ∃ key ∈ keys, outcomeAt registry settings keys s key = .error e ∧
        ∀ other ∈ keys, other.Precedes key →
          ∃ d, outcomeAt registry settings keys s other = .ok d := by
  rw [scanLockFiles_apply h, ← scanAll_eq_error_iff h.ascending]
  cases (scanAll registry settings keys s).1 <;> simp [Except.map]

/-- An answer has a note on each malformed lock file, and then data or a note for each
dependency. -/
theorem partitions_of_scanLockFiles (h : TakesUp settings files keys) {s : σ} {r : ScanResult}
    (hr : (scanLockFiles registry settings files s).1 = .ok r) :
    ∃ notes noted failed, r.failures = notes ++ noted ∧
      List.Forall₂ Noted (files.filter (¬·.IsReadable)) notes ∧
      (⟨r.dependencies, noted⟩ : ScanResult).Partitions (outcomeAt registry settings keys s) keys
        failed := by
  rw [scanLockFiles_apply h] at hr
  cases hbatch : (scanAll registry settings keys s).1 with
  | error e =>
    rw [hbatch] at hr
    exact nomatch hr
  | ok batch =>
    rw [hbatch] at hr
    obtain rfl : batch.addFailures (files.filterMap malformedNote?) = r := Except.ok.inj hr
    -- Dependencies and failures are those of the batch, with the notes on files in front.
    have hcollect := eq_collect_of_scanAll (h.ascending.imp DependencyKey.Precedes.ne) hbatch
    have hnames : ∀ key, (outcomeAt registry settings keys s key).Names key :=
      fun key => scanPackage_names key _
    have hpartitions := ScanResult.collect_partitions h.ascending hnames
    rw [← hcollect] at hpartitions
    exact ⟨_, _, _, rfl, noted_filterMap_malformedNote? files, hpartitions⟩

/-- An entry is put where a first part of a list ends. -/
private theorem insertIdx_length_append {α : Type} (a : α) (before after : List α) :
    (before ++ after).insertIdx before.length a = before ++ a :: after := by
  induction before with
  | nil => simp
  | cons b before ih => simp [ih]

/-- Without a malformed lock file, a scan comes to the same without the note on it. -/
theorem scanLockFiles_of_malformed (registry : PackageRegistry (StateM σ))
    (settings : ScanSettings) (before after : List LockFileChange) {file : LockFileChange}
    (hfile : ¬file.IsReadable) (s : σ) :
    ∃ note, file.Noted note ∧ scanLockFiles registry settings (before ++ file :: after) s =
      ((scanLockFiles registry settings (before ++ after) s).1.map fun r =>
        ⟨r.dependencies, r.failures.insertIdx (before.filter (¬·.IsReadable)).length note⟩,
      (scanLockFiles registry settings (before ++ after) s).2) := by
  obtain ⟨keys, hkeys⟩ := exists_takesUp settings (before ++ after)
  obtain ⟨note, hnote, hnoted⟩ := exists_malformedNote? hfile
  -- A file that cannot be read introduces nothing, so that the same packages are taken up.
  have hnone : ∀ key, ¬file.Introduces key := fun key h => hfile h.isReadable
  have hwith : TakesUp settings (before ++ file :: after) keys :=
    hkeys.congr fun key => by simp [or_and_right, exists_or, hnone]
  have hlength := (noted_filterMap_malformedNote? before).length_eq
  refine ⟨note, hnoted, ?_⟩
  rw [scanLockFiles_apply hwith, scanLockFiles_apply hkeys, hlength, List.filterMap_append,
    List.filterMap_append, List.filterMap_cons_some hnote]
  cases (scanAll registry settings keys s).1 with
  | error e => rfl
  | ok batch =>
    simp only [Except.map, ScanResult.addFailures, List.append_assoc, List.cons_append,
      insertIdx_length_append]

/-- The order of the lock files matters only to that of their notes. -/
theorem scanLockFiles_perm {others : List LockFileChange} (hperm : others.Perm files) (s : σ) :
    (scanLockFiles registry settings others s).1.map (·.dependencies) =
        (scanLockFiles registry settings files s).1.map (·.dependencies) ∧
      (scanLockFiles registry settings others s).2 =
        (scanLockFiles registry settings files s).2 := by
  obtain ⟨keys, hkeys⟩ := exists_takesUp settings files
  have hothers : TakesUp settings others keys :=
    hkeys.congr fun key => by simp [hperm.mem_iff]
  rw [scanLockFiles_apply hkeys, scanLockFiles_apply hothers]
  cases (scanAll registry settings keys s).1 <;> exact ⟨rfl, rfl⟩

/-- What a scan of lock files comes to. It returns an error only if it stops at failures, and this
is the error of a dependency that fails. Otherwise its answer has a note on each malformed lock
file, and then data or a note for each dependency that is not ignored and that one of the other lock
files introduces. A malformed lock file adds its own note and does nothing else, and the order of
the lock files does not matter to the dependencies. -/
theorem scanLockFiles_isolates_malformed (registry : PackageRegistry (StateM σ))
    (settings : ScanSettings) (files : List LockFileChange) (s : σ) :
    ∃ keys, TakesUp settings files keys ∧
      let outcome := outcomeAt registry settings keys s
      let scan := fun files => scanLockFiles registry settings files s
      (∀ e, (scan files).1 = .error e ↔ settings.batchMode = .failFast ∧
        ∃ key ∈ keys, outcome key = .error e ∧
          ∀ other ∈ keys, other.Precedes key → ∃ d, outcome other = .ok d) ∧
      (∀ e, (scan files).1 = .error e → ∃ key ∈ keys, ∃ step source, step ≠ .diff ∧
        e = .dependency key.name key.version step source) ∧
      (∀ r, (scan files).1 = .ok r → ∃ notes noted failed, r.failures = notes ++ noted ∧
        List.Forall₂ Noted (files.filter (¬·.IsReadable)) notes ∧
        (⟨r.dependencies, noted⟩ : ScanResult).Partitions outcome keys failed) ∧
      (∀ before file after, files = before ++ file :: after → ¬file.IsReadable →
        ∃ note, file.Noted note ∧
          let position := (before.filter (¬·.IsReadable)).length
          scan files = ((scan (before ++ after)).1.map fun r =>
            ⟨r.dependencies, r.failures.insertIdx position note⟩, (scan (before ++ after)).2)) ∧
      ∀ others, others.Perm files →
        (scan others).1.map (·.dependencies) = (scan files).1.map (·.dependencies) ∧
        (scan others).2 = (scan files).2 := by
  obtain ⟨keys, hkeys⟩ := exists_takesUp settings files
  refine ⟨keys, hkeys, fun e => scanLockFiles_eq_error_iff hkeys s, fun e he => ?_,
    fun r hr => partitions_of_scanLockFiles hkeys hr, ?_,
    fun others hperm => scanLockFiles_perm hperm s⟩
  -- The error of one package names that package and the step that failed.
  · obtain ⟨-, key, hmem, hkey, -⟩ := (scanLockFiles_eq_error_iff hkeys s).1 he
    have hnames : (outcomeAt registry settings keys s key).Names key := scanPackage_names key _
    rw [hkey] at hnames
    cases hnames with
    | failed step source hstep => exact ⟨key, hmem, step, source, hstep, rfl⟩
  · rintro before file after rfl hfile
    exact scanLockFiles_of_malformed registry settings before after hfile s

end Registry

/-- A malformed lock file is noted in front of what comes of a sound one, even if the scan stops at
failures. -/
theorem scanLockFiles_isolates_malformed_yarn :
    let registry := PackageRegistry.empty
    let settings : ScanSettings :=
      { (default : ScanSettings) with batchMode := .failFast, ignore := ⟨["lodash"]⟩ }
    let malformed : LockFileChange := ⟨"a/yarn.lock", .yarn, none, "  version 1\n"⟩
    let sound : LockFileChange := ⟨"b/yarn.lock", .yarn, none, "lodash@4:\n  version 4.17.21\n"⟩
    ¬malformed.IsReadable ∧ sound.IsReadable ∧ ∃ note, malformed.Noted note ∧
      scanLockFiles registry settings [malformed, sound] () =
        ((scanLockFiles registry settings [sound] ()).1.map fun r =>
          ⟨r.dependencies, note :: r.failures⟩, ()) := by
  intro registry settings malformed sound
  have hmalformed : ¬malformed.IsReadable := by decide +kernel
  obtain ⟨keys, -, -, -, -, hisolated, -⟩ :=
    scanLockFiles_isolates_malformed registry settings [malformed, sound] ()
  obtain ⟨note, hnote, hscan⟩ := hisolated [] malformed [sound] rfl hmalformed
  exact ⟨hmalformed, by decide +kernel, note, hnote, hscan⟩

end DepTriage
