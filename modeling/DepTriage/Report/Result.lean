import DepTriage.Report.Finding
import DepTriage.Scan.Result

/-! # Results as JSON

Lists that may be missing are left out when they are empty. -/

namespace DepTriage

open Json

/-- The usage of an object from names to accesses. -/
def GlobalUsage.ofJson? (j : Json) : Option GlobalUsage :=
  (mapOfJson? (fun j => j.variant? >>= Access.ofLabel?) j).map GlobalUsage.mk

namespace SkippedFile

def toJson (f : SkippedFile) : Json :=
  .object [("path", .string f.path), ("reason", .string f.reason)]

def ofJson? (j : Json) : Option SkippedFile :=
  match j.record? ["path", "reason"] with
  | some [path, reason] => do
    return ⟨← required? string? path, ← required? string? reason⟩
  | _ => none

end SkippedFile

namespace ScannedDependency

def fieldNames : List String :=
  ["name", "version", "metadata", "downloads", "globals", "findings", "skipped_files"]

def toJson (d : ScannedDependency) : Json :=
  .object <| [("name", .string d.name), ("version", .string d.version),
      ("metadata", d.metadata.toJson), ("downloads", d.downloads.toJson),
      ("globals", d.globals.toJson), ("findings", .array (d.findings.map Finding.toJson))]
    ++ if d.skipped.isEmpty then []
      else [("skipped_files", .array (d.skipped.map SkippedFile.toJson))]

/-- The collections around a point in time take their share of the depth that a document may
have. -/
def ofJson? (j : Json) : Option ScannedDependency :=
  match j.record? fieldNames with
  | some [name, version, metadata, downloads, globals, findings, skipped] => do
    return {
      name := ← required? string? name
      version := ← required? string? version
      metadata := ← required? (PackageMetadata.ofJsonWithin? 122) metadata
      downloads := ← required? DownloadStats.ofJson? downloads
      globals := ← required? GlobalUsage.ofJson? globals
      findings := ← required? (list? Finding.ofJson?) findings
      skipped := ← withDefault? [] (list? SkippedFile.ofJson?) skipped }
  | _ => none

end ScannedDependency

namespace ScanFailure

/-- A step that is not known is left out. -/
def toJson (f : ScanFailure) : Json :=
  .object <| [("target", .string f.target)]
    ++ f.step.toList.map (fun s => ("step", .string s.label))
    ++ [("message", .string f.message)]

def ofJson? (j : Json) : Option ScanFailure :=
  match j.record? ["target", "step", "message"] with
  | some [target, step, message] => do
    return {
      target := ← required? string? target
      step := ← withDefault? none (optional? fun j => j.variant? >>= ScanStep.ofLabel?) step
      message := ← required? string? message }
  | _ => none

end ScanFailure

namespace ScanResult

def toJson (r : ScanResult) : Json :=
  .object <| [("dependencies", .array (r.dependencies.map ScannedDependency.toJson))]
    ++ if r.failures.isEmpty then []
      else [("failures", .array (r.failures.map ScanFailure.toJson))]

def ofJson? (j : Json) : Option ScanResult :=
  match j.record? ["dependencies", "failures"] with
  | some [dependencies, failures] => do
    return {
      dependencies := ← required? (list? ScannedDependency.ofJson?) dependencies
      failures := ← withDefault? [] (list? ScanFailure.ofJson?) failures }
  | _ => none

end ScanResult

end DepTriage
