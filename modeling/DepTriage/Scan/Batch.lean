import DepTriage.LockFile.Change
import DepTriage.Scan.Assessment

/-! # Scanning changes

The dependencies that a change introduces are scanned in ascending order, without those that are
ignored. -/

namespace DepTriage

/-- The note of a dependency's failure: the error without the place that the note itself names. -/
def ScanError.failure (e : ScanError) (key : DependencyKey) : ScanFailure :=
  ⟨key.label, e.step?, e.inner.message⟩

namespace ScanResult

def addDependency (d : ScannedDependency) (r : ScanResult) : ScanResult :=
  { r with dependencies := d :: r.dependencies }

def addFailures (failures : List ScanFailure) (r : ScanResult) : ScanResult :=
  { r with failures := failures ++ r.failures }

end ScanResult

/-- The dependencies of a change that are scanned, in ascending order. -/
def DependencySet.scanned (change : DependencySet) (ignore : IgnoreList) : List DependencyKey :=
  change.toList.filter fun key => !ignore.covers key.name

variable {m : Type → Type} [Monad m]

/-- Scans dependencies one after the other. -/
def scanAll (registry : PackageRegistry m) (settings : ScanSettings) :
    List DependencyKey → m (Except ScanError ScanResult)
  | [] => return .ok {}
  | key :: keys => do
    match ← scanPackage registry settings key with
    -- The rest is scanned after `key`, and what it came to is put behind it.
    | .ok d => return (← scanAll registry settings keys).map (·.addDependency d)
    | .error e =>
      match settings.batchMode with
      | .failFast => return .error e
      | .skipFailed =>
        return (← scanAll registry settings keys).map (·.addFailures [e.failure key])

/-- Scans the dependencies that a change introduces. -/
def scanChange (registry : PackageRegistry m) (settings : ScanSettings) (change : DependencySet) :
    m (Except ScanError ScanResult) :=
  scanAll registry settings (change.scanned settings.ignore)

/-! ## Lock files -/

/-- What lock files introduce together, and the note of each one that cannot be read. -/
structure Introduced where
  change : DependencySet := {}
  failures : List ScanFailure := []
deriving Inhabited

/-- Adds one lock file to those before it. A malformed one is noted. -/
def Introduced.add (i : Introduced) (file : LockFileChange) : Except ScanError Introduced :=
  match file.introduced with
  | .ok change => .ok { i with change := i.change.union change }
  | .error (.malformedLock format message) =>
    let note := (ScanError.malformedLock format message).message
    .ok { i with failures := i.failures ++ [⟨file.path, some .diff, note⟩] }
  | .error e => .error e

def introducedBy (files : List LockFileChange) : Except ScanError Introduced :=
  files.foldlM Introduced.add {}

/-- Scans what lock files introduce, each dependency once. A lock file that is malformed costs only
itself. -/
def scanLockFiles (registry : PackageRegistry m) (settings : ScanSettings)
    (files : List LockFileChange) : m (Except ScanError ScanResult) := do
  match introducedBy files with
  | .error e => return .error e
  | .ok introduced =>
    return (← scanChange registry settings introduced.change).map
      (·.addFailures introduced.failures)

end DepTriage
