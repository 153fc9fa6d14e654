import DepTriage.Toml.Value

/-! # Tables under construction

Tables come about in several ways: by a header, by a dotted key, or on the way to another table. The
way decides what may be added later, since no table may be defined twice. -/

namespace DepTriage.Toml

mutual

/-- What a key stands for while a document is read. -/
inductive Draft where
  | value (value : Value)
  | table (table : DraftTable)
  /-- The tables of an array, the last one first. -/
  | tables (last : DraftTable) (others : List DraftTable)

/-- A table to which entries may be added. -/
inductive DraftTable where
  /-- `isImplicit` tells that no header of its own has defined the table, and `isDotted` that a
  dotted key has. -/
  | mk (isImplicit isDotted : Bool) (entries : List (String × Draft))

end

namespace DraftTable

instance : Inhabited DraftTable := ⟨.mk false false []⟩

def isImplicit : DraftTable → Bool
  | mk i _ _ => i

def isDotted : DraftTable → Bool
  | mk _ d _ => d

def entries : DraftTable → List (String × Draft)
  | mk _ _ es => es

def empty : DraftTable :=
  mk false false []

def get? (t : DraftTable) (key : String) : Option Draft :=
  List.lookup key t.entries

/-- Replaces the entry of a key. -/
def setIn (key : String) (draft : Draft) : List (String × Draft) → List (String × Draft)
  | [] => [(key, draft)]
  | (k, d) :: es => if k == key then (key, draft) :: es else (k, d) :: setIn key draft es

def set (t : DraftTable) (key : String) (draft : Draft) : DraftTable :=
  mk t.isImplicit t.isDotted (setIn key draft t.entries)

/-- Alters the table at the end of a path. Tables on the way come about if need be, as parts of a
dotted key if `dotted`; a dotted key does not lead through tables with headers. -/
def alter? (dotted : Bool) (f : DraftTable → Option DraftTable) :
    (path : List String) → DraftTable → Option DraftTable
  | [], t => f t
  | key :: path, t =>
    match t.get? key with
    | none => (alter? dotted f path (mk true dotted [])).map fun c => t.set key (.table c)
    | some (.value _) => none
    | some (.tables last others) =>
      (alter? dotted f path last).map fun c => t.set key (.tables c others)
    | some (.table c) =>
      if dotted && !c.isImplicit then none
      else (alter? dotted f path c).map fun c => t.set key (.table c)

/-- Adds a value with a key that may be dotted. -/
def put? (t : DraftTable) (path : List String) (key : String) (value : Value) :
    Option DraftTable :=
  t.alter? true (fun c =>
    if c.isDotted == path.isEmpty || (c.get? key).isSome then none
    else some (c.set key (.value value))) path

/-- Defines the table of a header. -/
def define? (t : DraftTable) (path : List String) (key : String) : Option DraftTable :=
  t.alter? false (fun c =>
    match c.get? key with
    | none => some (c.set key (.table empty))
    | some (.table d) =>
      if d.isImplicit && !d.isDotted then some (c.set key (.table (mk false false d.entries)))
      else none
    | _ => none) path

/-- Adds a table to the array of a header. -/
def extend? (t : DraftTable) (path : List String) (key : String) : Option DraftTable :=
  t.alter? false (fun c =>
    match c.get? key with
    | none => some (c.set key (.tables empty []))
    | some (.tables last others) => some (c.set key (.tables empty (last :: others)))
    | _ => none) path

end DraftTable

mutual

/-- The value that a draft has become. -/
def Draft.seal : Draft → Value
  | .value v => v
  | .table t => t.seal
  | .tables last others => .array (DraftTable.sealOnto others [last.seal])

def DraftTable.seal : DraftTable → Value
  | .mk _ _ entries => .table (DraftTable.sealEntries entries)

/-- Seals tables that are listed in reverse, in front of others. -/
def DraftTable.sealOnto : List DraftTable → List Value → List Value
  | [], values => values
  | t :: ts, values => DraftTable.sealOnto ts (t.seal :: values)

def DraftTable.sealEntries : List (String × Draft) → List (String × Value)
  | [] => []
  | (key, draft) :: entries => (key, draft.seal) :: DraftTable.sealEntries entries

end

end DepTriage.Toml
