import Std.Data.TreeMap

/-! # Global usage

How code touches global names. A `GlobalUsage` sends each name to the strongest `Access` that was
recorded for it, and lists its names in ascending order of their code points. -/

namespace DepTriage

/-- How code touches a global name; a write counts as more than a read. -/
inductive Access where
  | read
  | readWrite
deriving DecidableEq, Repr, Inhabited

namespace Access

def label : Access → String
  | read => "read"
  | readWrite => "read-write"

def ofLabel? : String → Option Access
  | "read" => some read
  | "read-write" => some readWrite
  | _ => none

/-- The stronger of two accesses. -/
def join : Access → Access → Access
  | read, a => a
  | readWrite, _ => readWrite

end Access

/-- The global names referenced by a file or a package, each with its strongest access. -/
structure GlobalUsage where
  accesses : Std.TreeMap String Access := ∅

namespace GlobalUsage

def empty : GlobalUsage := {}

instance : Inhabited GlobalUsage := ⟨empty⟩

def get? (u : GlobalUsage) (name : String) : Option Access :=
  u.accesses[name]?

/-- Adds one reference: a name once written stays written. -/
def record (u : GlobalUsage) (name : String) (access : Access) : GlobalUsage :=
  ⟨u.accesses.insert name (match u.get? name with
    | some earlier => earlier.join access
    | none => access)⟩

/-- The names in ascending order, each with its access. -/
def toList (u : GlobalUsage) : List (String × Access) :=
  u.accesses.toList

/-- Records every reference of a list. -/
def recordAll (u : GlobalUsage) (references : List (String × Access)) : GlobalUsage :=
  references.foldl (fun u r => u.record r.1 r.2) u

/-- Adds everything that `other` recorded. -/
def merge (u other : GlobalUsage) : GlobalUsage :=
  u.recordAll other.toList

def ofList (references : List (String × Access)) : GlobalUsage :=
  empty.recordAll references

def size (u : GlobalUsage) : Nat :=
  u.accesses.size

def isEmpty (u : GlobalUsage) : Bool :=
  u.accesses.isEmpty

instance : BEq GlobalUsage := ⟨fun u v => u.toList == v.toList⟩

end GlobalUsage

end DepTriage
