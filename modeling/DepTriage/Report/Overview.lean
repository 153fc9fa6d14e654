import DepTriage.Report.Table
import DepTriage.Rule.DangerousGlobals
import DepTriage.Scan.Result

/-! # Overviews

What a reader is shown of a result: a table of the dependencies, the findings on each, the failures
and the totals. Severities may be coloured for a terminal. -/

namespace DepTriage

/-- A severity in capitals; in colour it stands between codes of the terminal. -/
def Severity.banner (s : Severity) (colored : Bool) : String :=
  match s, colored with
  | high, false => "HIGH"
  | medium, false => "MEDIUM"
  | low, false => "LOW"
  | high, true => "\x1b[91mHIGH\x1b[0m"
  | medium, true => "\x1b[33mMEDIUM\x1b[0m"
  | low, true => "\x1b[32mLOW\x1b[0m"

/-- A text of no more than so many characters, of which three dots take the last places if it was
longer. -/
def shortened (limit : Nat) (text : String) : String :=
  if text.length ≤ limit then text
  else String.ofList (text.toList.take (limit - 3) ++ ['.', '.', '.'])

/-- A text, or a dash if there is none. -/
def orDash (text : Option String) : String :=
  text.getD "-"

namespace ScannedDependency

/-- The cells of a dependency in the table. -/
def cells (d : ScannedDependency) (colored : Bool) : List String :=
  [shortened 40 d.name, d.version, orDash d.metadata.latest?, toString d.downloads.downloads,
    toString d.findings.length, orDash (d.highestSeverity?.map (·.banner colored))]

/-- A finding with its evidence, line by line. -/
def findingText (f : Finding) (colored : Bool) : String :=
  s!"  [{f.severity.banner colored}] {f.rule.label}: {f.description}\n"
    ++ String.join ((Text.lines f.evidence.toList).map fun line =>
      s!"      {String.ofList line}\n")

/-- The findings on a dependency. -/
def findingsText (d : ScannedDependency) (colored : Bool) : String :=
  s!"\n{d.name}@{d.version}:\n"
    ++ String.join (d.findings.map (findingText · colored))
    ++ if d.skipped.isEmpty then "" else s!"  ({d.skipped.length} files could not be parsed)\n"

end ScannedDependency

def ScanFailure.cells (f : ScanFailure) : List String :=
  [f.target, orDash (f.step.map ScanStep.label), shortened 60 f.message]

namespace ScanResult

def dependenciesText (r : ScanResult) (colored : Bool) : String :=
  let ranked := r.ranked
  if ranked.isEmpty then "No new dependencies scanned.\n"
  else
    let table : Table := ⟨["Package", "Version", "Latest", "Downloads", "Findings", "Highest"],
      ranked.map (·.cells colored)⟩
    s!"Scanned {ranked.length} new dependencies:\n\n" ++ table.toText
      ++ String.join ((ranked.filter (!·.findings.isEmpty)).map (·.findingsText colored))

def failuresText (r : ScanResult) : String :=
  if r.failures.isEmpty then ""
  else
    let table : Table := ⟨["Target", "Step", "Error"], r.failures.map ScanFailure.cells⟩
    s!"\n{r.failures.length} targets could not be scanned:\n\n" ++ table.toText

/-- The totals. -/
def summaryText (r : ScanResult) : String :=
  s!"Summary:\n  Dependencies: {r.dependencies.length}\n"
    ++ (if r.totalFindings = 0 then "  Findings: none\n"
      else
        let high := r.countSeverity .high
        let medium := r.countSeverity .medium
        let low := r.countSeverity .low
        s!"  Findings: {high} high, {medium} medium, {low} low\n")
    ++ if r.failures.isEmpty then "" else s!"  Failures: {r.failures.length}\n"

/-- The whole overview of a result. -/
def overview (r : ScanResult) (colored : Bool) : String :=
  "\n" ++ r.dependenciesText colored ++ r.failuresText ++ "\n" ++ r.summaryText

end ScanResult

/-- A table of the names that code uses, with what each one makes possible. -/
def GlobalUsage.overview (u : GlobalUsage) : String :=
  if u.isEmpty then "No global usage found.\n"
  else
    let table : Table := ⟨["Global", "Access", "Category"], u.toList.map fun (name, access) =>
      [name, access.label, orDash ((Capability.ofGlobal? name access).map Capability.label)]⟩
    table.toText

end DepTriage
