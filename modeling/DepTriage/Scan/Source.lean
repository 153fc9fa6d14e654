import DepTriage.Archive.Extraction
import DepTriage.CodeHost.Basic
import DepTriage.Registry.Package

/-! # Where scans get their data

A scan asks a registry for packages and a code host for pull requests. Both answer in some monad
`m`, so that a scan is the same over the network and over recorded answers. -/

namespace DepTriage

structure PackageRegistry (m : Type → Type) where
  /-- The document of a package. -/
  metadata : (name : String) → m (Except ScanError PackageMetadata)
  downloads : (name : String) → DownloadPeriod → m (Except ScanError DownloadStats)
  /-- The bytes of an archive. -/
  tarball : (url : String) → m (Except ScanError ByteArray)

structure CodeHost (m : Type → Type) where
  pullRequest : PullRequestId → m (Except ScanError PullRequest)
  /-- All files that a pull request changes. -/
  changedFiles : PullRequestId → m (Except ScanError (List ChangedFile))
  /-- The text of a file at a revision, or none if there is no such file. -/
  fileContent : Repository → (path revision : String) → m (Except ScanError (Option String))

/-! ## Logs of calls -/

/-- A question to a registry or to a code host. -/
inductive SourceCall where
  | metadata (name : String)
  | downloads (name : String) (period : DownloadPeriod)
  | tarball (url : String)
  | pullRequest (id : PullRequestId)
  | changedFiles (id : PullRequestId)
  | fileContent (repository : Repository) (path revision : String)
deriving DecidableEq, Repr, Inhabited

variable {m : Type → Type} [Monad m]

/-- Asks `question` after noting the call at the end of the log. -/
def loggedCall {κ : Type} (call : κ) (question : m α) : StateT (List κ) m α := do
  modify (· ++ [call])
  question

/-- A registry that logs the questions it is asked. -/
def PackageRegistry.logged (r : PackageRegistry m) :
    PackageRegistry (StateT (List SourceCall) m) where
  metadata name := loggedCall (.metadata name) (r.metadata name)
  downloads name period := loggedCall (.downloads name period) (r.downloads name period)
  tarball url := loggedCall (.tarball url) (r.tarball url)

/-- A code host that logs the questions it is asked. -/
def CodeHost.logged (h : CodeHost m) : CodeHost (StateT (List SourceCall) m) where
  pullRequest id := loggedCall (.pullRequest id) (h.pullRequest id)
  changedFiles id := loggedCall (.changedFiles id) (h.changedFiles id)
  fileContent repository path revision :=
    loggedCall (.fileContent repository path revision) (h.fileContent repository path revision)

end DepTriage
