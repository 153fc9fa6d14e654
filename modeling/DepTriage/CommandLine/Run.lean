import DepTriage.CommandLine.Environment
import DepTriage.CommandLine.Invocation
import DepTriage.GitHub.Host
import DepTriage.Registry.Client
import DepTriage.Report.Overview
import DepTriage.Report.Result
import DepTriage.Json.Printer
import DepTriage.Scan.PullRequest

/-! # Running the program

Each command, over the environment. A command ends with an exit code or with an error. -/

namespace DepTriage.CommandLine

/-! ## Errors -/

inductive CommandError where
  /-- A name that is none of those to choose from. -/
  | unknownName (message : String)
  | unknownLockFormat (path : String)
  | unreadable (path cause : String)
  | unwalkable (path cause : String)
  | unwritable (path cause : String)
  /-- The configuration file could not be read or written. -/
  | configFile (cause : String)
  | scan (error : ScanError)
  | git (fault : Git.Fault)
deriving DecidableEq, Repr, Inhabited

/-- The messages of an error and of what lies behind it. -/
def scanErrorChain : ScanError → List String
  | .dependency name version step source =>
    (ScanError.dependency name version step source).message :: scanErrorChain source
  | .io cause => [(ScanError.io cause).message, cause]
  | e => [e.message]

namespace CommandError

def chain : CommandError → List String
  | unknownName message => [message]
  | unknownLockFormat path =>
    [s!"Cannot detect the lock format of {path}. Pass --lock-format yarn|pnpm"]
  | unreadable path cause => [s!"Failed to read {path}", cause]
  | unwalkable path cause => [s!"Failed to walk {path}", cause]
  | unwritable path cause => [s!"Failed to write {path}", cause]
  | configFile cause => [cause]
  | scan error => scanErrorChain error
  | git fault => fault.message :: fault.cause?.toList

/-- The line that is shown for an error. -/
def text (e : CommandError) : String :=
  "Error: " ++ String.intercalate ": " e.chain

end CommandError

/-! ## Exit codes -/

/-- The exit code of a command that failed. -/
def failureCode : Nat :=
  1

/-- The exit code of arguments that make no sense. -/
def misuseCode : Nat :=
  2

/-- The exit code for the worst severity that was found. -/
def severityCode : Severity → Nat
  | .high => 2
  | .medium => 3
  | .low => 4

/-- The exit code of a result: it tells the worst severity if that is at or above the threshold. -/
def resultCode (r : ScanResult) (failOn : Option Severity) : Nat :=
  match failOn, r.highestSeverity? with
  | some threshold, some worst =>
    if threshold.rank ≤ worst.rank then severityCode worst else 0
  | _, _ => 0

/-! ## Output -/

/-- The name and the version of the program. -/
def versionText : String :=
  "prscan 0.1.0\n"

/-- Where and how a command shows its result. -/
structure Output where
  format : OutputFormat
  file : Option String
deriving Repr, Inhabited

variable {m : Type → Type} [Monad m]

/-- Writes a text to the file, or prints it if there is none. -/
def Output.write (o : Output) (env : Environment m) (text : String) :
    m (Except CommandError Unit) := do
  match o.file with
  | none => env.print text; return .ok ()
  | some path =>
    match ← env.save path text with
    | .error cause => return .error (.unwritable path cause)
    | .ok () =>
      if o.format = .table then env.print s!"Results written to: {path}\n"
      return .ok ()

/-- The text of a result. On the terminal a table is coloured, and JSON ends its line. -/
def Output.resultText (o : Output) (r : ScanResult) : String :=
  match o.format with
  | .table => r.overview o.file.isNone
  | .json => if o.file.isNone then r.toJson.toText ++ "\n" else r.toJson.toText

def Output.usageText (o : Output) (u : GlobalUsage) : String :=
  match o.format with
  | .table => u.overview
  | .json => u.toJson.toText

/-- Shows the result of a scan, if there is one. -/
def Output.finish (o : Output) (env : Environment m) (failOn : Option Severity)
    (result : Except ScanError ScanResult) : m (Except CommandError Nat) := do
  match result with
  | .error e => return .error (.scan e)
  | .ok r => return (← o.write env (o.resultText r)).map fun () => resultCode r failOn

/-! ## Input -/

/-- What is said of bytes that should be a text. -/
def notTextCause : String :=
  "stream did not contain valid UTF-8"

def readText (env : Environment m) (path : String) : m (Except String String) := do
  match ← env.content path with
  | .error cause => return .error cause
  | .ok bytes =>
    match Text.decode? bytes.toList with
    | none => return .error notTextCause
    | some text => return .ok text

/-- The configuration; a file that makes no sense counts as none. -/
def loadConfig (env : Environment m) : m Config :=
  return ((← readText env env.configPath).toOption >>= Config.parse?).getD {}

/-- The format of a lock file, by its name if that is given. -/
def chooseLockFormat (path : String) : Option String → Except CommandError LockFormat
  | some name => (LockFormat.ofName name).mapError .unknownName
  | none =>
    match LockFormat.ofPath? path with
    | some format => .ok format
    | none => .error (.unknownLockFormat path)

/-- Reads the revisions of a lock file. -/
def readLockFile (env : Environment m) (new : String) (old lockFormat : Option String) :
    m (Except CommandError LockFileChange) := do
  match chooseLockFormat new lockFormat with
  | .error e => return .error e
  | .ok format =>
    match ← readText env new with
    | .error cause => return .error (.unreadable new cause)
    | .ok newText =>
      match old with
      | none => return .ok ⟨new, format, none, newText⟩
      | some old =>
        match ← readText env old with
        | .error cause => return .error (.unreadable old cause)
        | .ok oldText => return .ok ⟨new, format, some oldText, newText⟩

/-- Reads source files. -/
def readSources (env : Environment m) : List String → m (Except CommandError (List SourceFile))
  | [] => return .ok []
  | path :: paths => do
    match ← env.content path with
    | .error cause => return .error (.unreadable path cause)
    | .ok bytes =>
      return (← readSources env paths).map (⟨path, Text.decodeLossy bytes.toList⟩ :: ·)

/-- The source files that a path stands for: the file itself, or those files of the directory that
have one of the extensions. -/
def sourcesAt (env : Environment m) (extensions : List String) (path : String) :
    m (Except CommandError (List SourceFile)) := do
  if ← env.isFile path then readSources env [path]
  else
    match (← env.tree path).files path with
    | .error cause => return .error (.unwalkable path cause)
    | .ok paths => readSources env (paths.filter (extensionFilter extensions))

def sourcesAtAll (env : Environment m) (extensions : List String) :
    List String → m (Except CommandError (List SourceFile))
  | [] => return .ok []
  | path :: paths => do
    match ← sourcesAt env extensions path with
    | .error e => return .error e
    | .ok files => return (← sourcesAtAll env extensions paths).map (files ++ ·)

/-! ## Commands -/

/-- Shows or creates the configuration file. -/
def runConfig (env : Environment m) (create showPath : Bool) : m (Except CommandError Nat) := do
  if showPath then
    env.print s!"{env.configPath}\n"
    return .ok 0
  else if create then
    if ← env.pathExists env.configPath then
      env.print s!"Config file already exists at: {env.configPath}\n"
      return .ok 0
    else
      let text := Config.toToml {}
      match ← env.createParents env.configPath with
      | .error cause => return .error (.configFile cause)
      | .ok () =>
        match ← env.save env.configPath text with
        | .error cause => return .error (.configFile cause)
        | .ok () =>
          env.print s!"Created config file at: {env.configPath}\n\nDefault configuration:\n{text}\n"
          return .ok 0
  else if ← env.pathExists env.configPath then
    match ← readText env env.configPath with
    | .error cause => return .error (.configFile cause)
    | .ok text =>
      env.print s!"Config file: {env.configPath}\n\n{text}\n"
      return .ok 0
  else
    env.print <| "No config file found.\nRun 'prscan config --init' to create one.\n\n"
      ++ s!"Config path: {env.configPath}\n"
    return .ok 0

/-- Lists the globals that source files use. -/
def runAnalyze (env : Environment m) (config : Config) (output : Output) (paths : List String) :
    m (Except CommandError Nat) := do
  match ← sourcesAtAll env config.extraction.extensions paths with
  | .error e => return .error e
  | .ok files =>
    let analysis := analyzeFiles files
    analysis.skipped.forM env.tellSkipped
    return (← output.write env (output.usageText analysis.usage)).map fun () => 0

/-- Runs a command that makes a scan. -/
def runScan (env : Environment m) (config : Config) (output : Output) (failOn : Option Severity)
    (scan : PackageRegistry m → ScanSettings → m (Except ScanError ScanResult)) :
    m (Except CommandError Nat) := do
  let settings := config.scanSettings (← env.now)
  output.finish env failOn (← scan (config.registry.registry env.http) settings)

/-- Runs a command. -/
def runCommand (env : Environment m) (config : Config) (output : Output)
    (failOn : Option Severity) : Command → m (Except CommandError Nat)
  | .pullRequest id =>
    runScan env config output failOn fun registry settings =>
      scanPullRequest registry (config.github.client env.http env.token).host settings id
  | .diff new old lockFormat => do
    match ← readLockFile env new old lockFormat with
    | .error e => return .error e
    | .ok change =>
      runScan env config output failOn fun registry settings =>
        scanLockFiles registry settings [change]
  | .branch base head directory => do
    match ← (Checkout.mk env.git directory).lockFiles base head with
    | .error fault => return .error (.git fault)
    | .ok changes =>
      runScan env config output failOn fun registry settings =>
        scanLockFiles registry settings changes
  | .package key =>
    runScan env config output failOn fun registry settings =>
      return (← scanPackage registry settings key).map fun d => ⟨[d], []⟩
  | .analyze paths => runAnalyze env config output paths
  | .config create showPath => runConfig env create showPath

/-- Runs a command with its options, which go before the configuration. -/
def run (env : Environment m) (command : Command) (options : Options) :
    m (Except CommandError Nat) := do
  let config ← loadConfig env
  let config := if options.skipFailed then { config with batchMode := .skipFailed } else config
  match OutputFormat.ofName (options.format.getD config.defaultFormat) with
  | .error message => return .error (.unknownName message)
  | .ok format => runCommand env config ⟨format, options.output⟩ options.failOn command

end DepTriage.CommandLine
