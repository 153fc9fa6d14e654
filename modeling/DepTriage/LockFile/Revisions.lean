import DepTriage.CodeHost.Basic
import DepTriage.LockFile.Change

/-! # The lock files among changed files

Of the files that differ between two revisions, the lock files are read at both: first at the new
one, then at the old one, and none is read after a reading that failed. -/

namespace DepTriage

/-- The two revisions that are compared. -/
inductive Side where
  | head
  | base
deriving DecidableEq, Repr, Inhabited

/-- The name of the revision on a side. -/
def Side.revision (base head : String) : Side → String
  | .head => head
  | .base => base

/-- Where the two revisions of a lock file stand. -/
structure LockFilePlace where
  path : String
  format : LockFormat
  /-- Where the old revision stands, if there is one. -/
  basePath : Option String
deriving DecidableEq, Repr, Inhabited

namespace ChangedFile

/-- Where the old revision of a lock file stands, if it has one: a file that was added has none, and
a renamed or copied one only in a file of the same format. -/
def basePath? (f : ChangedFile) (format : LockFormat) : Option String :=
  match f.status with
  | .added => none
  | .renamed | .copied => f.previous.filter fun path => LockFormat.ofPath? path == some format
  | _ => some f.path

/-- The lock file that a changed file is, if the new revision still holds it. -/
def lockFile? (f : ChangedFile) : Option LockFilePlace :=
  if f.status = .removed then none
  else (LockFormat.ofPath? f.path).map fun format => ⟨f.path, format, f.basePath? format⟩

end ChangedFile

variable {m : Type → Type} [Monad m] {ε : Type}

/-- Reads both revisions of a lock file. -/
def readRevisions (read : Side → (path : String) → m (Except ε String)) (place : LockFilePlace) :
    m (Except ε LockFileChange) := do
  match ← read .head place.path with
  | .error e => return .error e
  | .ok new =>
    match place.basePath with
    | none => return .ok ⟨place.path, place.format, none, new⟩
    | some path =>
      match ← read .base path with
      | .error e => return .error e
      | .ok old => return .ok ⟨place.path, place.format, some old, new⟩

/-- Reads lock files, in order. -/
def readLockFiles (read : Side → (path : String) → m (Except ε String)) :
    List LockFilePlace → m (Except ε (List LockFileChange))
  | [] => return .ok []
  | place :: places => do
    match ← readRevisions read place with
    | .error e => return .error e
    | .ok change => return (← readLockFiles read places).map (change :: ·)

end DepTriage
