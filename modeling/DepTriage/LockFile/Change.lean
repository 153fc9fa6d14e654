import DepTriage.LockFile.Pnpm
import DepTriage.LockFile.Yarn
import DepTriage.ScanError

/-! # Changes of lock files

What the revisions of a lock file pin, and what a change of it introduces. -/

namespace DepTriage

/-- The dependencies that a lock file pins. -/
def LockFormat.read (format : LockFormat) (content : String) : Except ScanError DependencySet :=
  match format with
  | .yarn => (Yarn.read content.toList).mapError fun f => .malformedLock .yarn f.message
  | .pnpm => (Pnpm.read content.toList).mapError fun f => .malformedLock .pnpm f.message

/-- Two revisions of a lock file; a file that is new has no old one. -/
structure LockFileChange where
  path : String
  format : LockFormat
  old : Option String
  new : String
deriving DecidableEq, Repr, Inhabited

namespace LockFileChange

/-- The dependencies that only the new revision pins. The new revision is read first. -/
def introduced (c : LockFileChange) : Except ScanError DependencySet := do
  let new ← c.format.read c.new
  match c.old with
  | none => return new
  | some old => return new.difference (← c.format.read old)

end LockFileChange

end DepTriage
