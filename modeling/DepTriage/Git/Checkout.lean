import DepTriage.Git.NameStatus
import DepTriage.Text.Blank
import DepTriage.Text.Utf8

/-! # Lock files of a local checkout

The lock files that differ between two revisions of a checkout, as `git` tells them. -/

namespace DepTriage

namespace Git

/-- What a run of `git` leaves. -/
structure Output where
  exitCode : Nat := 0
  standardOutput : ByteArray := .empty
  standardError : ByteArray := .empty
deriving Inhabited

/-- Runs `git` in a directory. If it cannot be started, there is a text that says why. -/
abbrev Program (m : Type → Type) :=
  (directory : String) → (arguments : List String) → m (Except String Output)

inductive Fault where
  | notStarted (cause : String)
  | failed (directory : String) (arguments : List String) (standardError : String)
  | notText (arguments : List String) (fault : Text.Utf8Fault)
  | listing (fault : ListingFault)
deriving DecidableEq, Repr, Inhabited

/-- How a run of `git` is written. -/
def commandLine (arguments : List String) : String :=
  String.intercalate " " ("git" :: arguments)

namespace Fault

def message : Fault → String
  | notStarted _ => "Failed to execute git. Is git installed?"
  | failed directory arguments standardError =>
    s!"{commandLine arguments} failed in {directory}: {standardError}"
  | notText arguments _ => s!"{commandLine arguments} printed invalid UTF-8"
  | listing fault => fault.message

/-- The text of what lies behind a fault. -/
def cause? : Fault → Option String
  | notStarted cause => some cause
  | notText _ fault => some fault.message
  | _ => none

end Fault

end Git

/-- A checkout of a repository. -/
structure Checkout (m : Type → Type) where
  git : Git.Program m
  directory : String := "."

namespace Checkout

open Git

variable {m : Type → Type} [Monad m]

/-- The text that `git` prints. -/
def text (c : Checkout m) (arguments : List String) : m (Except Fault String) := do
  match ← c.git c.directory arguments with
  | .error cause => return .error (.notStarted cause)
  | .ok output =>
    if output.exitCode ≠ 0 then
      let message := Text.trim (Text.decodeLossy output.standardError.toList).toList
      return .error (.failed c.directory arguments (String.ofList message))
    else
      match Text.decode output.standardOutput.toList with
      | .error fault => return .error (.notText arguments fault)
      | .ok text => return .ok text

/-- The arguments that list the files that differ between two revisions. -/
def listingArguments (base head : String) : List String :=
  ["diff", "--name-status", "-z", "--find-renames", base, head, "--"]

/-- The arguments that show a file at a revision. -/
def contentArguments (path revision : String) : List String :=
  ["show", s!"{revision}:{path}"]

/-- The records of the files that differ between two revisions. -/
def records (c : Checkout m) (base head : String) : m (Except Fault (List NameStatus)) := do
  match ← c.text (listingArguments base head) with
  | .error e => return .error e
  | .ok listing => return (NameStatus.read listing).mapError Fault.listing

/-- The lock files that differ between two revisions. -/
def lockFiles (c : Checkout m) (base head : String) :
    m (Except Fault (List LockFileChange)) := do
  match ← c.records base head with
  | .error e => return .error e
  | .ok records =>
    readLockFiles (fun side path => c.text (contentArguments path (side.revision base head)))
      (records.filterMap NameStatus.lockFile?)

end Checkout

end DepTriage
