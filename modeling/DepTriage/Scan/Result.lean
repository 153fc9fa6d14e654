import DepTriage.Dependency
import DepTriage.Finding
import DepTriage.JavaScript.Analysis
import DepTriage.Registry.Package

/-! # Results of scans

What a scan learned about each dependency, and what it could not scan. -/

namespace DepTriage

/-- What was learned about one dependency. -/
structure ScannedDependency where
  name : String
  version : String
  metadata : PackageMetadata
  downloads : DownloadStats
  globals : GlobalUsage
  findings : List Finding
  skipped : List SkippedFile := []
deriving Inhabited

namespace ScannedDependency

def key (d : ScannedDependency) : DependencyKey :=
  ⟨d.name, d.version⟩

def highestSeverity? (d : ScannedDependency) : Option Severity :=
  Severity.highest? (d.findings.map (·.severity))

end ScannedDependency

/-- A dependency or a lock file that could not be scanned. -/
structure ScanFailure where
  /-- The label of a dependency, or the path of a lock file. -/
  target : String
  step : Option ScanStep := none
  message : String
deriving DecidableEq, Repr, Inhabited

structure ScanResult where
  dependencies : List ScannedDependency := []
  failures : List ScanFailure := []
deriving Inhabited

namespace ScanResult

/-- All findings, by dependency. -/
def findings (r : ScanResult) : List Finding :=
  r.dependencies.flatMap (·.findings)

def totalFindings (r : ScanResult) : Nat :=
  r.findings.length

def countSeverity (r : ScanResult) (s : Severity) : Nat :=
  r.findings.countP (·.severity == s)

def highestSeverity? (r : ScanResult) : Option Severity :=
  Severity.highest? (r.dependencies.filterMap (·.highestSeverity?))

/-- The dependencies with the most findings first; those with as many as each other stay in
order. -/
def ranked (r : ScanResult) : List ScannedDependency :=
  r.dependencies.mergeSort fun a b => b.findings.length ≤ a.findings.length

end ScanResult

end DepTriage
