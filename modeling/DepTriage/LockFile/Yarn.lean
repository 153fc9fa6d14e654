import DepTriage.Dependency
import DepTriage.Text.Blank
import DepTriage.Text.Split

/-! # yarn.lock

Both generations of the format share what is read here: unindented entry keys that end in a colon,
and below each a `version` field indented by two spaces. All other lines of an entry are passed
over, and so are blank lines and comments.

An entry key lists specifiers `name@range`; the first one gives the package. Entries of the
repository itself, whose range names a local protocol, are no dependencies. -/

namespace DepTriage.Yarn

open DepTriage.Text

/-- What is wrong with a lock file, and in which line. -/
inductive Fault where
  | expectedKey (line : Nat) (found : List Char)
  | beforeFirstEntry (line : Nat)
  | noVersion (line : Nat) (key : List Char)
deriving DecidableEq, Repr

def Fault.message : Fault → String
  | expectedKey line found =>
    s!"line {line}: expected an entry key, found `{String.ofList found}`"
  | beforeFirstEntry line => s!"line {line}: indented line before the first entry"
  | noVersion line key => s!"line {line}: entry `{String.ofList key}` has no version"

/-! ## Specifiers -/

/-- `name@range` as name and range; the `@` that starts a scope does not separate. -/
def splitSpecifier? (specifier : List Char) : Option (List Char × List Char) :=
  (splitLast? '@' specifier).filter fun (name, _) => !name.isEmpty

/-- The protocols of code inside the repository. -/
def localProtocols : List String :=
  ["workspace", "link", "portal", "file"]

/-- Whether the range of a specifier names a local protocol. -/
def isLocal (specifier : List Char) : Bool :=
  match splitSpecifier? specifier with
  | none => false
  | some (_, range) =>
    match splitFirst? ':' range with
    | none => false
    | some (protocol, _) => localProtocols.contains (String.ofList protocol)

/-- The name that a specifier without protocol starts with. -/
def nameOfHead (head : List Char) : List Char :=
  match splitSpecifier? head with
  | some (name, _) => name
  | none => head

/-- The package that a specifier names. An alias `alias@npm:real@range` names the real package. -/
def packageName (specifier : List Char) : List Char :=
  match splitFirst? ':' specifier with
  | none => nameOfHead specifier
  | some (head, rest) =>
    if "@npm".toList.isSuffixOf head then
      match splitSpecifier? rest with
      | some (real, _) => real
      | none => nameOfHead head
    else nameOfHead head

/-- A value without the double quotes around it, and then without single ones. -/
def unquote (value : List Char) : List Char :=
  trimBoth (· == '\'') (trimBoth (· == '"') value)

/-- The first of the specifiers that an entry key lists. -/
def firstSpecifier (key : List Char) : List Char :=
  unquote (trim (beforeFirst ',' key))

/-- The entry that describes the lock file itself. -/
def metadataEntry : List Char :=
  "__metadata".toList

/-! ## Lines -/

/-- The value of a `version` field, which stands exactly two spaces deep; an empty one counts as
none. -/
def versionField? (line : List Char) : Option (List Char) :=
  match line with
  | ' ' :: ' ' :: body =>
    match dropStart? "version".toList body with
    | some (':' :: value) => nonEmpty (unquote (trim value))
    | some (' ' :: value) => nonEmpty (unquote (trim (' ' :: value)))
    | _ => none
  | _ => none
where
  nonEmpty (value : List Char) : Option (List Char) :=
    if value.isEmpty then none else some value

/-- What a line is for the reader, without the white space at its end. -/
inductive Line where
  /-- Blank, or a comment. -/
  | noise
  | key (key : List Char)
  /-- An unindented line that is no entry key. -/
  | stray (text : List Char)
  /-- A line inside an entry, with the version it may give. -/
  | field (version : Option (List Char))
deriving DecidableEq, Repr

def Line.ofText (raw : List Char) : Line :=
  let line := trimEnd isWhiteSpace raw
  match trimStart isWhiteSpace line with
  | [] => .noise
  | '#' :: _ => .noise
  | _ =>
    match line with
    | ' ' :: _ => .field (versionField? line)
    | _ =>
      match dropEnd? [':'] line with
      | some entryKey => .key entryKey
      | none => .stray line

/-! ## Entries -/

/-- An entry key, the line it stands in, and the first version given below it. -/
structure Entry where
  key : List Char
  line : Nat
  version : Option (List Char) := none
deriving DecidableEq, Repr

/-- Adds the dependency of a finished entry. -/
def Entry.addTo (e : Entry) (set : DependencySet) : Except Fault DependencySet :=
  let specifier := firstSpecifier e.key
  if specifier = metadataEntry ∨ isLocal specifier then .ok set
  else
    match e.version with
    | none => .error (.noVersion e.line e.key)
    | some version =>
      .ok (set.insert ⟨String.ofList (packageName specifier), String.ofList version⟩)

/-- The dependencies of the finished entries, and the entry being read. -/
structure Progress where
  set : DependencySet := {}
  entry : Option Entry := none

/-- Adds the entry being read, if there is one. -/
def Progress.finish (p : Progress) : Except Fault DependencySet :=
  match p.entry with
  | none => .ok p.set
  | some e => e.addTo p.set

def Progress.step (p : Progress) (line : Line) (number : Nat) : Except Fault Progress :=
  match line with
  | .noise => .ok p
  | .stray text => .error (.expectedKey number text)
  | .key entryKey =>
    match p.finish with
    | .error fault => .error fault
    | .ok set => .ok ⟨set, some ⟨entryKey, number, none⟩⟩
  | .field version =>
    match p.entry with
    | none => .error (.beforeFirstEntry number)
    | some e => .ok { p with entry := some { e with version := e.version.or version } }

/-- Reads lines of which the first has the given number. -/
def Progress.steps : Progress → List Line → Nat → Except Fault Progress
  | p, [], _ => .ok p
  | p, line :: lines, number =>
    match p.step line number with
    | .error fault => .error fault
    | .ok p => p.steps lines (number + 1)

/-- The dependencies that a lock file pins. -/
def read (content : List Char) : Except Fault DependencySet :=
  match Progress.steps {} ((lines content).map Line.ofText) 1 with
  | .error fault => .error fault
  | .ok p => p.finish

end DepTriage.Yarn
