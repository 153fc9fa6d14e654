import DepTriage.GlobalUsage

/-! # Usage ledgers

Named usages of globals, and the steps that build them up. A usage that has not been named before
is empty. A step alters at most one usage. -/

namespace DepTriage

structure UsageLedger where
  usages : Std.TreeMap String GlobalUsage := ∅

namespace UsageLedger

instance : Inhabited UsageLedger := ⟨{}⟩

def usage (l : UsageLedger) (name : String) : GlobalUsage :=
  l.usages.getD name {}

def put (l : UsageLedger) (name : String) (u : GlobalUsage) : UsageLedger :=
  ⟨l.usages.insert name u⟩

/-- What can be done to a ledger. -/
inductive Step where
  | record (usage : String) (name : String) (access : Access)
  | merge (usage other : String)
  /-- The usage becomes that of a list of references. -/
  | collect (usage : String) (references : List (String × Access))
  | get (usage : String) (name : String)
  | equals (usage other : String)
deriving Repr, Inhabited

/-- What a step answers. -/
inductive Answer where
  | none
  | access (value : Option Access)
  | truth (value : Bool)
deriving Repr, Inhabited

def step (l : UsageLedger) : Step → Answer × UsageLedger
  | .record usage name access => (.none, l.put usage ((l.usage usage).record name access))
  | .merge usage other => (.none, l.put usage ((l.usage usage).merge (l.usage other)))
  | .collect usage references => (.none, l.put usage (.ofList references))
  | .get usage name => (.access ((l.usage usage).get? name), l)
  | .equals usage other => (.truth (l.usage usage == l.usage other), l)

/-- What is left after steps taken one after the other. -/
def run (l : UsageLedger) (steps : List Step) : UsageLedger :=
  steps.foldl (fun l s => (l.step s).2) l

end UsageLedger

end DepTriage
