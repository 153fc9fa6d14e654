import DepTriage.Dependency
import DepTriage.LockFormat

/-! # What can go wrong in a scan

Errors are told apart by how a scan reacts to them: a `transient` one is worth another attempt, a
`parseFailure` costs one source file, a `malformedLock` one lock file, and the others fail what
they occur in. `dependency` adds the dependency and the step in which an error occurred. -/

namespace DepTriage

/-- The steps of scanning one dependency, and the comparison of lock files before them. -/
inductive ScanStep where
  | diff
  | fetchMetadata
  | fetchStats
  | fetchArchive
  | extract
deriving DecidableEq, Repr, Inhabited

namespace ScanStep

def label : ScanStep → String
  | diff => "diff"
  | fetchMetadata => "fetch-metadata"
  | fetchStats => "fetch-stats"
  | fetchArchive => "fetch-archive"
  | extract => "extract"

def ofLabel? : String → Option ScanStep
  | "diff" => some diff
  | "fetch-metadata" => some fetchMetadata
  | "fetch-stats" => some fetchStats
  | "fetch-archive" => some fetchArchive
  | "extract" => some extract
  | _ => none

end ScanStep

inductive ScanError where
  | notFound (what : String)
  | transient (what message : String)
  | sizeLimitExceeded (limit : Nat)
  | parseFailure (path message : String)
  | malformedLock (format : LockFormat) (message : String)
  | unexpectedStatus (what : String) (status : Nat)
  | invalidResponse (what message : String)
  | io (message : String)
  | dependency (name version : String) (step : ScanStep) (source : ScanError)
deriving DecidableEq, Repr, Inhabited

namespace ScanError

/-- The text shown for an error. -/
def message : ScanError → String
  | notFound what => s!"{what} not found"
  | transient what message => s!"transient failure fetching {what}: {message}"
  | sizeLimitExceeded limit => s!"extraction exceeded the size limit of {limit} bytes"
  | parseFailure path message => s!"failed to parse {path}: {message}"
  | malformedLock format message => s!"malformed {format.fileName}: {message}"
  | unexpectedStatus what status => s!"unexpected HTTP status {status} fetching {what}"
  | invalidResponse what message => s!"invalid response for {what}: {message}"
  | io message => s!"failed to read archive: {message}"
  | dependency name version step source =>
    s!"{name}@{version} failed during {step.label}: {source.message}"

/-- The error that an HTTP status other than success stands for. -/
def ofStatus (what : String) (status : Nat) : ScanError :=
  if status = 404 then notFound what
  else if status = 429 ∨ status = 408 ∨ (500 ≤ status ∧ status < 600) then
    transient what s!"HTTP {status}"
  else unexpectedStatus what status

/-- An error with the dependency and the step in which it occurred. -/
def during (e : ScanError) (key : DependencyKey) (step : ScanStep) : ScanError :=
  dependency key.name key.version step e

/-- The step in which an error occurred, if that is known. -/
def step? : ScanError → Option ScanStep
  | dependency _ _ step _ => some step
  | _ => none

def isRetryable : ScanError → Bool
  | transient _ _ => true
  | _ => false

def isNotFound : ScanError → Bool
  | notFound _ => true
  | dependency _ _ _ source => source.isNotFound
  | _ => false

/-- The error that a dependency's own error adds a place to. -/
def inner : ScanError → ScanError
  | dependency _ _ _ source => source
  | e => e

end ScanError

end DepTriage
