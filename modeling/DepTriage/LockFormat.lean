import DepTriage.Text.Lowercase
import DepTriage.Text.Split

/-! # Lock file formats

The kinds of lock file that can be read, and how a path tells its kind. -/

namespace DepTriage

inductive LockFormat where
  | yarn
  | pnpm
deriving DecidableEq, Repr, Inhabited

namespace LockFormat

def label : LockFormat → String
  | yarn => "yarn"
  | pnpm => "pnpm"

def fileName : LockFormat → String
  | yarn => "yarn.lock"
  | pnpm => "pnpm-lock.yaml"

/-- The format that bears a name, in any letter case. -/
def ofName (name : String) : Except String LockFormat :=
  match Text.lowercase name with
  | "yarn" | "yarn.lock" => .ok yarn
  | "pnpm" | "pnpm-lock.yaml" => .ok pnpm
  | _ => .error s!"Unknown lock format: {name}. Use 'yarn' or 'pnpm'"

/-- The last component of a path, without regard to slashes and single dots at its end; there is
none after `..`. -/
def lastComponent? (path : String) : Option String :=
  let components := (Text.splitAll '/' path.toList).filter fun c => c != [] && c != ['.']
  (components.getLast?.filter (· != ['.', '.'])).map String.ofList

/-- The format of a lock file, by the last component of its path. -/
def ofPath? (path : String) : Option LockFormat :=
  match lastComponent? path with
  | some "yarn.lock" => some yarn
  | some "pnpm-lock.yaml" => some pnpm
  | _ => none

end LockFormat

end DepTriage
