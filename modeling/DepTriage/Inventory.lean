import DepTriage.IgnoreList
import DepTriage.LockFile.Change
import Std.Data.TreeMap

/-! # Inventories

Named dependency sets and named changes, and the steps that build them up. What has not been named
before is empty. A step alters at most one set or one change. -/

namespace DepTriage

structure Inventory where
  sets : Std.TreeMap String DependencySet := ∅
  changes : Std.TreeMap String DependencySet := ∅

namespace Inventory

instance : Inhabited Inventory := ⟨{}⟩

def set (i : Inventory) (name : String) : DependencySet :=
  i.sets.getD name {}

def change (i : Inventory) (name : String) : DependencySet :=
  i.changes.getD name {}

def putSet (i : Inventory) (name : String) (s : DependencySet) : Inventory :=
  { i with sets := i.sets.insert name s }

def putChange (i : Inventory) (name : String) (s : DependencySet) : Inventory :=
  { i with changes := i.changes.insert name s }

/-- What can be done to an inventory. -/
inductive Step where
  | insert (set : String) (key : DependencyKey)
  | load (set : String) (format : LockFormat) (content : String)
  | collect (set : String) (keys : List DependencyKey)
  | contains (set : String) (key : DependencyKey)
  /-- The change becomes what `set` has and `base` lacks. -/
  | difference (change set base : String)
  /-- The change becomes all of a set. -/
  | all (change set : String)
  | union (change other : String)
  | dropIgnored (change : String) (ignore : IgnoreList)
  | changeContains (change : String) (key : DependencyKey)
deriving Repr, Inhabited

/-- What a step answers. -/
inductive Answer where
  | none
  | truth (value : Bool)
  | failure (error : ScanError)
deriving Repr, Inhabited

/-- Takes a step. A load that fails changes nothing. -/
def step (i : Inventory) : Step → Answer × Inventory
  | .insert name key =>
    (.truth (!(i.set name).contains key), i.putSet name ((i.set name).insert key))
  | .load name format content =>
    match format.read content with
    | .ok s => (.none, i.putSet name s)
    | .error e => (.failure e, i)
  | .collect name keys => (.none, i.putSet name (.ofList keys))
  | .contains name key => (.truth ((i.set name).contains key), i)
  | .difference name set base =>
    (.none, i.putChange name ((i.set set).difference (i.set base)))
  | .all name set => (.none, i.putChange name (i.set set))
  | .union name other => (.none, i.putChange name ((i.change name).union (i.change other)))
  | .dropIgnored name ignore =>
    (.none, i.putChange name ((i.change name).filter fun k => !ignore.covers k.name))
  | .changeContains name key => (.truth ((i.change name).contains key), i)

/-- What is left after steps taken one after the other. -/
def run (i : Inventory) (steps : List Step) : Inventory :=
  steps.foldl (fun i s => (i.step s).2) i

end Inventory

end DepTriage
