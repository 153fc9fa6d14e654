import DepTriage.CommandLine.Run
import Std.Time.DateTime.Timestamp

/-! # The program

The outer layer: it connects the library to the files, the clock and the terminal of the machine. It
has no network and starts no other program, so requests and runs of `git` fail as they do where
neither is at hand. -/

namespace DepTriage.CommandLine

/-- Runs an action whose failure is a text. -/
def attempt {α : Type} (action : IO α) : IO (Except String α) := do
  try return .ok (← action) catch e => return .error (toString e)

/-- The point in time of a number of nanoseconds after 1 January 1970. -/
def timestampOfNanoseconds (n : Nat) : Timestamp where
  day := n / (Timestamp.nanosPerSecond * Timestamp.secondsPerDay)
  second := n / Timestamp.nanosPerSecond % Timestamp.secondsPerDay
  nanosecond := n % Timestamp.nanosPerSecond

def currentTime : IO Timestamp := do
  let now ← Std.Time.Timestamp.now
  return timestampOfNanoseconds now.toNanosecondsSinceUnixEpoch.val.toNat

/-- The directory that a path stands in, if it names one. -/
def parent? (path : String) : Option String :=
  (Text.splitLast? '/' path.toList).bind fun (directory, _) =>
    if directory.isEmpty then none else some (String.ofList directory)

/-- Whether a directory stands under a path. -/
def isDirectory (path : String) : IO Bool := do
  match ← attempt (IO.FS.realPath path) with
  | .ok real => real.isDir
  | .error _ => return false

/-- Whether anything stands under a path. -/
def exists? (path : String) : IO Bool := do
  match ← attempt (IO.FS.realPath path) with
  | .ok real => real.pathExists
  | .error _ => return false

/-- Reads the tree under a path; links in it are not followed. -/
partial def readTree (path : String) : IO FileTree := do
  match ← attempt (do (← IO.FS.realPath path).readDir) with
  | .error cause => return .broken cause
  | .ok entries =>
    let trees ← entries.toList.mapM fun entry => do
      match (← entry.path.symlinkMetadata).type with
      | .file => return (entry.fileName, FileTree.file)
      | .dir => return (entry.fileName, ← readTree entry.path.toString)
      | _ => return (entry.fileName, FileTree.other)
    return .directory trees

/-- Where the configuration file belongs. -/
def findConfigPath : IO String := do
  match ← IO.getEnv "XDG_CONFIG_HOME", ← IO.getEnv "HOME" with
  | some directory, _ => return FileTree.join directory "prscan/config.toml"
  | none, some home => return FileTree.join home ".config/prscan/config.toml"
  | none, none => return "./prscan/config.toml"

/-- The machine that the program runs on. -/
def machine (configPath : String) (token : Option String) : Environment IO where
  now := currentTime
  configPath
  token
  pathExists := exists?
  isFile path := return (← exists? path) && !(← isDirectory path)
  content path := attempt (IO.FS.readBinFile path)
  tree := readTree
  save path text := attempt (IO.FS.writeFile path text)
  createParents path :=
    match parent? path with
    | none => return .ok ()
    | some directory => attempt (IO.FS.createDirAll directory)
  print text := IO.print text
  tellSkipped file := IO.eprintln s!"Skipped {file.path}: {file.reason}"
  http := {
    send := fun _ => return .error "no network"
    wait := fun milliseconds => IO.sleep milliseconds.toUInt32 }
  git _ _ := return .error "no other program can be started"

/-- What is shown to one who asks for help. -/
def helpText : String :=
  String.join <| [
    "Finds risks in the packages that a change introduces",
    "",
    "Usage: prscan [OPTIONS] <COMMAND>",
    "",
    "Commands:",
    "  pr <OWNER> <REPO> <NUMBER>",
    "  diff --new <NEW> [--old <OLD>] [--lock-format <FORMAT>]",
    "  branch <BASE> <HEAD> [--repo <REPO>]",
    "  package <NAME> <VERSION>",
    "  analyze <PATHS>...",
    "  config [--init] [--path]",
    "  help [COMMAND]",
    "",
    "Options:",
    "  -f, --format <FORMAT>",
    "  -o, --output <OUTPUT>",
    "      --skip-failed",
    "      --fail-on <high|medium|low>",
    "  -v, --verbose",
    "  -h, --help",
    "  -V, --version"].map (· ++ "\n")

/-- Does what an invocation asks for, and gives the exit code. -/
def perform : Option Invocation → IO Nat
  | none => do IO.eprint helpText; return misuseCode
  | some .help => do IO.print helpText; return 0
  | some .version => do IO.print versionText; return 0
  | some (.run command options) => do
    let env := machine (← findConfigPath) (← IO.getEnv "GITHUB_TOKEN")
    match ← run env command options with
    | .ok code => return code
    | .error e => IO.eprintln e.text; return failureCode

end DepTriage.CommandLine

open DepTriage.CommandLine in
def main (arguments : List String) : IO UInt32 := do
  let code ← perform (Invocation.read? arguments)
  return code.toUInt32
