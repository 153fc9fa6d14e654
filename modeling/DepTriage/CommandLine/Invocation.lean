import DepTriage.CodeHost.Basic
import DepTriage.CommandLine.Form
import DepTriage.Dependency
import DepTriage.Severity

/-! # Invocations of the program

The commands of the program with their options, as its arguments spell them. Some options belong to
all commands and may stand before or after the command's name; the later value counts. -/

namespace DepTriage.CommandLine

inductive Command where
  /-- Scans the lock files that a pull request changes. -/
  | pullRequest (id : PullRequestId)
  /-- Scans what one lock file pins beyond another. -/
  | diff (new : String) (old lockFormat : Option String)
  /-- Scans the lock files that differ between two revisions of a checkout. -/
  | branch (base head directory : String)
  /-- Scans one version of a package. -/
  | package (key : DependencyKey)
  /-- Lists the globals that source files use. -/
  | analyze (paths : List String)
  /-- Shows or creates the configuration file. -/
  | config (create showPath : Bool)
deriving DecidableEq, Repr, Inhabited

/-- The options of all commands. -/
structure Options where
  format : Option String := none
  output : Option String := none
  skipFailed : Bool := false
  failOn : Option Severity := none
  verbose : Bool := false
deriving DecidableEq, Repr, Inhabited

inductive Invocation where
  | help
  | version
  | run (command : Command) (options : Options)
deriving DecidableEq, Repr, Inhabited

/-! ## Forms -/

def anyText (_ : String) : Bool :=
  true

/-- A path must not be empty. -/
def isPath (text : String) : Bool :=
  !text.isEmpty

/-- A number of 64 bits, before which a plus sign may stand. -/
def readNumber? (text : String) : Option Nat :=
  let digits := match text.toList with
    | '+' :: digits => digits
    | digits => digits
  if digits.isEmpty || !digits.all Char.isDigit then none
  else
    let n := digits.foldl (fun n c => 10 * n + (c.toNat - '0'.toNat)) 0
    if n < Nat.pow 2 64 then some n else none

def helpOption : OptionForm :=
  ⟨"help", some 'h', .help⟩

/-- The options of all commands. -/
def commonOptions : List OptionForm :=
  [⟨"format", some 'f', .value anyText⟩,
    ⟨"output", some 'o', .value isPath⟩,
    ⟨"skip-failed", none, .flag⟩,
    ⟨"fail-on", none, .value fun text => (Severity.ofLabel? text).isSome⟩,
    ⟨"verbose", some 'v', .flag⟩,
    helpOption]

/-- What may stand before the name of a command. -/
def programForm : Form where
  options := commonOptions ++ [⟨"version", some 'V', .version⟩]

/-- The forms of the commands, by name. -/
def commandForms : List (String × Form) :=
  [("pr", {
      options := commonOptions
      values := [anyText, anyText, fun text => (readNumber? text).isSome] }),
    ("diff", {
      options := commonOptions ++ [⟨"new", none, .value isPath⟩, ⟨"old", none, .value isPath⟩,
        ⟨"lock-format", none, .value anyText⟩] }),
    ("branch", {
      options := commonOptions ++ [⟨"repo", some 'r', .value isPath⟩]
      values := [anyText, anyText] }),
    ("package", { options := commonOptions, values := [anyText, anyText] }),
    ("analyze", { options := commonOptions, values := [isPath], repeats := true }),
    ("config", {
      options := commonOptions ++ [⟨"init", none, .flag⟩, ⟨"path", none, .flag⟩] })]

/-- The name of the command that shows help. -/
def helpName : String :=
  "help"

def isCommandName (name : String) : Bool :=
  name == helpName || commandForms.any (·.1 == name)

/-! ## Reading -/

/-- The options of all commands, of which those after the command's name come first. -/
def readOptions (program command : Reading) : Options :=
  let value? (name : String) := (command.value? name).or (program.value? name)
  let flag (name : String) := command.hasFlag name || program.hasFlag name
  { format := value? "format"
    output := value? "output"
    skipFailed := flag "skip-failed"
    failOn := value? "fail-on" >>= Severity.ofLabel?
    verbose := flag "verbose" }

/-- The command of a name with what has been read for it. -/
def readCommand? (name : String) (r : Reading) : Option Command :=
  match name, r.values with
  | "pr", [owner, repository, number] =>
    (readNumber? number).map fun number => .pullRequest ⟨⟨owner, repository⟩, number⟩
  | "diff", [] =>
    (r.value? "new").map fun new => .diff new (r.value? "old") (r.value? "lock-format")
  | "branch", [base, head] => some (.branch base head ((r.value? "repo").getD "."))
  | "package", [package, version] => some (.package ⟨package, version⟩)
  | "analyze", paths => some (.analyze paths)
  | "config", [] => some (.config (r.hasFlag "init") (r.hasFlag "path"))
  | _, _ => none

/-- Reads what follows the name of the command that shows help: at most the name of a command. -/
def readHelp : List String → Stop
  | [] => .help
  | [name] => if isCommandName name then .help else .misuse
  | _ => .misuse

/-- Reads a command and its arguments, after what stands before it. -/
def readFrom (program : Reading) : List String → Except Stop Invocation
  | [] => .error .misuse
  | name :: arguments => do
    if name == helpName then throw (readHelp arguments)
    match commandForms.lookup name with
    | none => throw .misuse
    | some form =>
      let r ← form.read arguments
      let program ← program.settle
      match readCommand? name r with
      | none => throw .misuse
      | some command => return .run command (readOptions program r)

/-- What the arguments of the program ask for, or none if they make no sense. -/
def Invocation.read? (arguments : List String) : Option Invocation :=
  let result := do
    let (program, rest) ← programForm.readToCommand isCommandName arguments {}
    readFrom program rest
  match result with
  | .ok invocation => some invocation
  | .error .help => some .help
  | .error .version => some .version
  | .error .misuse => none

end DepTriage.CommandLine
