import DepTriage.JavaScript.Globals
import DepTriage.JavaScript.Parser
import DepTriage.ScanError

/-! # The globals of source files

A source text is read as a module or as a classic script, by the ending of its path if that tells,
and the usage of a package is the join over its files. A file that cannot be read is skipped and
listed. -/

namespace DepTriage

open JavaScript (Goal Program)

/-- Why a source text has no analysis. -/
inductive SourceFault where
  | badSyntax
  | tooDeep
deriving DecidableEq, Repr

def SourceFault.message : SourceFault → String
  | badSyntax => "<syntax error>"
  | tooDeep => s!"nesting too deep (limit {JavaScript.nestingLimit})"

/-- The failure of the file at a path. -/
def SourceFault.failure (fault : SourceFault) (path : String) : ScanError :=
  .parseFailure path fault.message

/-- The globals of a program, unless it nests too deep. -/
def JavaScript.Program.analyze (program : Program) : Except SourceFault GlobalUsage :=
  match program.globals? with
  | none => .error .tooDeep
  | some usage => .ok usage

/-- The globals of a text read as a module or as a script. -/
def analyzeAs (goal : Goal) (text : String) : Except SourceFault GlobalUsage :=
  match Program.parse? goal text with
  | none => .error .badSyntax
  | some program => program.analyze

/-- The globals of a text of unknown kind: it is read as a module, and if that fails as a script.
If both fail, the fault of the module stands. -/
def analyzeText (text : String) : Except SourceFault GlobalUsage :=
  match analyzeAs .module text with
  | .ok usage => .ok usage
  | .error fault =>
    match analyzeAs .script text with
    | .ok usage => .ok usage
    | .error _ => .error fault

structure SourceFile where
  path : String
  text : String
deriving DecidableEq, Repr, Inhabited

/-- The reading that a path asks for; most paths leave it open. -/
def goalOfPath? (path : String) : Option Goal :=
  let lower := (Text.lowercase path).toList
  if ".mjs".toList.isSuffixOf lower then some .module
  else if ".cjs".toList.isSuffixOf lower then some .script
  else none

def SourceFile.analyze (file : SourceFile) : Except ScanError GlobalUsage :=
  let result := match goalOfPath? file.path with
    | some goal => analyzeAs goal file.text
    | none => analyzeText file.text
  result.mapError (·.failure file.path)

/-- A source file without analysis, and why. -/
structure SkippedFile where
  path : String
  reason : String
deriving DecidableEq, Repr, Inhabited

/-- The usage of all files of a package that could be read, and the list of the others. -/
structure PackageAnalysis where
  usage : GlobalUsage := {}
  skipped : List SkippedFile := []

/-- Adds one file to the analysis of those before it. -/
def PackageAnalysis.add (a : PackageAnalysis) (file : SourceFile) : PackageAnalysis :=
  match file.analyze with
  | .ok usage => { a with usage := a.usage.merge usage }
  | .error e => { a with skipped := a.skipped ++ [⟨file.path, e.message⟩] }

def analyzeFiles (files : List SourceFile) : PackageAnalysis :=
  files.foldl PackageAnalysis.add {}

end DepTriage
