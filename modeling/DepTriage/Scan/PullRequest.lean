import DepTriage.LockFile.Revisions
import DepTriage.Scan.Batch

/-! # Scanning pull requests

All that a code host has to say is asked before the registry is. -/

namespace DepTriage

variable {m : Type → Type} [Monad m]

/-- The text of a file at a revision, which has to be there. -/
def CodeHost.requireContent (host : CodeHost m) (repository : Repository)
    (path revision : String) : m (Except ScanError String) := do
  match ← host.fileContent repository path revision with
  | .error e => return .error e
  | .ok none => return .error (.notFound s!"{repository.label}/{path} at {revision}")
  | .ok (some text) => return .ok text

/-- The lock files that a pull request changes. -/
def pullRequestLockFiles (host : CodeHost m) (id : PullRequestId) :
    m (Except ScanError (List LockFileChange)) := do
  match ← host.pullRequest id with
  | .error e => return .error e
  | .ok pull =>
    match ← host.changedFiles id with
    | .error e => return .error e
    | .ok files =>
      readLockFiles (fun side path =>
          host.requireContent id.repository path (side.revision pull.base pull.head))
        (files.filterMap ChangedFile.lockFile?)

/-- Scans what the lock files of a pull request introduce. -/
def scanPullRequest (registry : PackageRegistry m) (host : CodeHost m) (settings : ScanSettings)
    (id : PullRequestId) : m (Except ScanError ScanResult) := do
  match ← pullRequestLockFiles host id with
  | .error e => return .error e
  | .ok files => scanLockFiles registry settings files

end DepTriage
