import DepTriage.Dependency
import DepTriage.Text.Blank
import DepTriage.Text.Split
import DepTriage.Yaml.Value
import Std.Data.TreeSet

/-! # pnpm-lock.yaml

Of the document only its version and the keys of its packages count. Each generation of the format
writes keys in its own way: `/name/1.0.0_peer@2.0.0` before version 6, `/name@1.0.0(peer@2.0.0)`
from then on, and without the slash from version 9. Peers are dropped, so that the generations give
the same dependencies. -/

namespace DepTriage.Pnpm

open DepTriage.Text

/-- What is wrong with a lock file. -/
inductive Fault where
  /-- The text is no YAML document of the right shape. -/
  | badDocument
  | noFormatVersion
  | keyWithoutVersion (key : String)
deriving DecidableEq, Repr

def Fault.message : Fault → String
  | badDocument => "<yaml error>"
  | noFormatVersion => "missing or invalid lockfileVersion"
  | keyWithoutVersion key => s!"package key `{key}` has no version"

/-! ## Documents -/

/-- What a lock file says, apart from the contents of its packages. -/
structure Document where
  formatVersion : Option Yaml.Value := none
  packages : List String := []
deriving Repr

section
open Yaml (Node Value Jumps)

/-- The text of a scalar, whatever it stands for. -/
def scalarText? (d : Yaml.Document) (node : Node) (jumps : Jumps) : Option (String × Jumps) :=
  match d.follow? node jumps with
  | some (.scalar _ _ text, jumps) => some (text, jumps)
  | _ => none

/-- Whether a node counts as left out; `none` if it is no null though its tag says so. -/
def isOmitted? : Node → Option Bool
  | .scalar tag true text =>
    if tag == some (Yaml.coreTag "null") then
      if Yaml.isNullText text then some true else none
    else if tag.isSome then some false
    else some (text.isEmpty || Yaml.isNullText text)
  | _ => some false

/-- Reads the format's version, which may be left out. -/
def readVersion? (d : Yaml.Document) (node : Node) (jumps : Jumps) :
    Option (Option Value × Jumps) := do
  let (node, jumps) ← d.follow? node jumps
  if ← isOmitted? node then return (none, jumps)
  else
    let (value, jumps) ← d.value? (Yaml.depthLimit - 1) node jumps
    return (some value, jumps)

/-- Reads the keys of the packages. Their values only have to be values. -/
def readKeys? (d : Yaml.Document) :
    List (Node × Node) → (keys : List String) → Jumps → Option (List String × Jumps)
  | [], keys, jumps => some (keys.reverse, jumps)
  | (k, v) :: entries, keys, jumps =>
    match scalarText? d k jumps with
    | none => none
    | some (key, jumps) =>
      match d.value? (Yaml.depthLimit - 2) v jumps with
      | none => none
      | some (_, jumps) => readKeys? d entries (key :: keys) jumps

/-- Reads the packages, which may be left out. -/
def readPackages? (d : Yaml.Document) (node : Node) (jumps : Jumps) :
    Option (List String × Jumps) := do
  let (node, jumps) ← d.follow? node jumps
  if ← isOmitted? node then return ([], jumps)
  else
    match node with
    | .mapping _ entries => readKeys? d entries [] jumps
    | .scalar _ true "" => return ([], jumps)
    | _ => none

/-- Reads the entries of the document: the version and the packages at most once each, and others
without regard to what they hold. -/
def readEntries? (d : Yaml.Document) :
    List (Node × Node) → (version : Option (Option Value)) → (packages : Option (List String)) →
      Jumps → Option Document
  | [], version, packages, _ => some ⟨version.join, packages.getD []⟩
  | (k, v) :: entries, version, packages, jumps =>
    match scalarText? d k jumps with
    | none => none
    | some ("lockfileVersion", jumps) =>
      if version.isSome then none
      else
        match readVersion? d v jumps with
        | none => none
        | some (version, jumps) => readEntries? d entries (some version) packages jumps
    | some ("packages", jumps) =>
      if packages.isSome then none
      else
        match readPackages? d v jumps with
        | none => none
        | some (packages, jumps) => readEntries? d entries version (some packages) jumps
    | some (_, jumps) => readEntries? d entries version packages jumps

def Document.ofYaml? (d : Yaml.Document) : Option Document :=
  match d.root with
  | .mapping _ entries => readEntries? d entries none none d.jumpLimit
  | .scalar _ true "" => some {}
  | _ => none

end

def Document.parse? (content : List Char) : Option Document :=
  Yaml.Document.parse? content >>= Document.ofYaml?

/-! ## Keys -/

/-- The greatest version number that is told apart from greater ones. -/
def greatestMajor : Nat :=
  Nat.pow 2 32 - 1

/-- The major version of the format, which is written as a number or as a text. -/
def majorVersion? : Yaml.Value → Option Nat
  | .number (.int n) => some (min greatestMajor n.toNat)
  | .number (.float x) => some (x.truncate greatestMajor)
  | .text s => (Binary64.read? (trim s.toList)).map (Binary64.truncate greatestMajor)
  | _ => none

/-- What a package key stands for. -/
inductive KeyReading where
  | package (name version : List Char)
  /-- A package that does not come from the registry. -/
  | elsewhere
  | noVersion
deriving DecidableEq, Repr

/-- The name and the version of a key before version 6; the version ends where peers follow. -/
def splitAtSlash (key : List Char) : KeyReading :=
  match splitLast? '/' key with
  | none => .noVersion
  | some (name, version) => .package name (beforeFirst '_' version)

/-- The name and the version of a key from version 6 on. The keys of packages from a repository
or an archive hold slashes only. -/
def splitAtSign (key : List Char) : KeyReading :=
  match (splitLast? '@' key).filter fun (name, _) => !name.isEmpty with
  | some (name, version) => .package name version
  | none => if key.contains '/' then .elsewhere else .noVersion

/-- What a key stands for in a file of the given major version. -/
def readKey (major : Nat) (key : List Char) : KeyReading :=
  let bare := beforeFirst '(' (trimStart (· == '/') key)
  match if major < 6 then splitAtSlash bare else splitAtSign bare with
  | .package name version =>
    if name.isEmpty || version.isEmpty then .noVersion
    else if version.contains ':' then .elsewhere
    else .package name version
  | reading => reading

/-! ## Dependencies -/

/-- Adds what keys stand for, up to the first one without a version. -/
def addKeys (major : Nat) : List String → DependencySet → Except Fault DependencySet
  | [], set => .ok set
  | key :: keys, set =>
    match readKey major key.toList with
    | .noVersion => .error (.keyWithoutVersion key)
    | .elsewhere => addKeys major keys set
    | .package name version =>
      addKeys major keys (set.insert ⟨String.ofList name, String.ofList version⟩)

/-- The dependencies of a document; its keys are read in ascending order. -/
def Document.dependencies (d : Document) : Except Fault DependencySet :=
  match d.formatVersion >>= majorVersion? with
  | none => .error .noFormatVersion
  | some major => addKeys major (Std.TreeSet.ofList d.packages compare).toList {}

/-- The dependencies that a lock file pins. -/
def read (content : List Char) : Except Fault DependencySet :=
  match Document.parse? content with
  | none => .error .badDocument
  | some d => d.dependencies

end DepTriage.Pnpm
