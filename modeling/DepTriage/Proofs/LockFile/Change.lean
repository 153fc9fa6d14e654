import DepTriage.LockFile.Change
import DepTriage.Proofs.Dependency

/-!
# What changes of lock files introduce

A change of a lock file can be read if each revision that it needs can be, and then it introduces
what the new revision pins and the old one does not. Otherwise a revision is malformed, and there is
no other error.

## Key results

- `LockFormat.exists_malformedLock`: the errors of reading a lock file
- `LockFileChange.introduced_cases`: the answer for a change, or the error if there is none
- `LockFileChange.introduced_of_eq`: a lock file whose content has not changed introduces nothing
- `LockFileChange.isReadable_iff`: there is an answer if the revisions can be read
-/

namespace DepTriage

private theorem exists_of_mapError {ε ε' α : Type} {x : Except ε α} {f : ε → ε'} {e : ε'}
    (h : x.mapError f = .error e) : ∃ fault, f fault = e := by
  cases x with
  | error fault => exact ⟨fault, Except.error.inj h⟩
  | ok a => exact nomatch h

/-- A lock file that cannot be read is malformed. -/
theorem LockFormat.exists_malformedLock {format : LockFormat} {content : String} {e : ScanError}
    (h : format.read content = .error e) : ∃ message, e = .malformedLock format message := by
  cases format with
  | yarn =>
    obtain ⟨fault, rfl⟩ := exists_of_mapError h
    exact ⟨fault.message, rfl⟩
  | pnpm =>
    obtain ⟨fault, rfl⟩ := exists_of_mapError h
    exact ⟨fault.message, rfl⟩

namespace LockFileChange

variable {c : LockFileChange} {key : DependencyKey}

/-- The revisions that the change needs can all be read. -/
def IsReadable (c : LockFileChange) : Prop :=
  (∃ new, c.format.read c.new = .ok new) ∧
    ∀ old, c.old = some old → ∃ base, c.format.read old = .ok base

/-- The new revision pins `key`, and the old one, if there is one, does not. -/
def Introduces (c : LockFileChange) (key : DependencyKey) : Prop :=
  (∃ new, c.format.read c.new = .ok new ∧ key ∈ new) ∧
    ∀ old, c.old = some old → ∃ base, c.format.read old = .ok base ∧ key ∉ base

theorem Introduces.isReadable (h : c.Introduces key) : c.IsReadable := by
  obtain ⟨⟨new, hnew, -⟩, hold⟩ := h
  refine ⟨⟨new, hnew⟩, fun old hsome => ?_⟩
  obtain ⟨base, hbase, -⟩ := hold old hsome
  exact ⟨base, hbase⟩

/-- If a change can be read, the answer is what it introduces, and otherwise the error is that a
revision is malformed. -/
theorem introduced_cases (c : LockFileChange) :
    (∃ change, c.introduced = .ok change ∧ c.IsReadable ∧
      ∀ key, key ∈ change ↔ c.Introduces key) ∨
    ∃ message, c.introduced = .error (.malformedLock c.format message) ∧ ¬c.IsReadable := by
  obtain ⟨path, format, old, new⟩ := c
  dsimp only [introduced, IsReadable, Introduces]
  -- The new content is read first, so that its fault is the one reported when both are malformed.
  cases hnew : format.read new with
  | error e =>
    obtain ⟨message, rfl⟩ := LockFormat.exists_malformedLock hnew
    exact Or.inr ⟨message, rfl, by simp⟩
  | ok pinned =>
    cases old with
    | none => exact Or.inl ⟨pinned, rfl, by simp, by simp⟩
    | some old =>
      cases hold : format.read old with
      | error e =>
        obtain ⟨message, rfl⟩ := LockFormat.exists_malformedLock hold
        refine Or.inr ⟨message, ?_, by simp [hold]⟩
        dsimp only [bind, Except.bind]
        rw [hold]
      | ok base =>
        refine Or.inl ⟨pinned.difference base, ?_, by simp [hold], fun key => ?_⟩
        · dsimp only [bind, Except.bind]
          rw [hold]
          rfl
        · simp [DependencySet.mem_difference, hold]

/-- A lock file whose content has not changed introduces nothing. -/
theorem introduced_of_eq {path content : String} {format : LockFormat} {pinned : DependencySet}
    (h : format.read content = .ok pinned) :
    ∃ change, introduced ⟨path, format, some content, content⟩ = .ok change ∧
      change.toList = [] := by
  rcases introduced_cases ⟨path, format, some content, content⟩ with
    ⟨change, hok, -, hmem⟩ | ⟨message, -, hmalformed⟩
  -- A key introduced would be pinned by the new text and not by the old one, which are the same.
  · refine ⟨change, hok, List.eq_nil_iff_forall_not_mem.2 fun key hkey => ?_⟩
    obtain ⟨⟨new, hnew, hpinned⟩, hold⟩ := (hmem key).1 (DependencySet.mem_toList.1 hkey)
    obtain ⟨base, hbase, habsent⟩ := hold content rfl
    rw [Except.ok.inj (hnew.symm.trans hbase)] at hpinned
    exact habsent hpinned
  · exact absurd ⟨⟨pinned, h⟩, fun old hold => ⟨pinned, Option.some.inj hold ▸ h⟩⟩ hmalformed

theorem isReadable_iff (c : LockFileChange) : c.IsReadable ↔ c.introduced.isOk := by
  rcases c.introduced_cases with ⟨change, hok, hreadable, -⟩ | ⟨message, herror, hmalformed⟩
  · simp [hok, hreadable, Except.isOk, Except.toBool]
  · simp [herror, hmalformed, Except.isOk, Except.toBool]

instance : DecidablePred IsReadable :=
  fun c => decidable_of_iff _ c.isReadable_iff.symm

end LockFileChange

end DepTriage
