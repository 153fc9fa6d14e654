import DepTriage.Inventory
import DepTriage.Proofs.Dependency
import Mathlib.Data.Finset.Card
import Mathlib.Logic.Function.Basic

/-!
# Inventories stand for mathematical sets

An inventory does to its sets and changes what the operations of mathematics do to finite sets, over
any run of steps. What it lists is ordered and has no repetitions, and its answers are those that
the finite sets give.

## Key results

- `DependencySet.lists_of_mem_iff`: a set with the members of a finite set lists it
- `Catalogue.Lists.step`: a step of an inventory is a step on finite sets
- `Inventory.step_frame`: a step alters only the set or the change that it is about
- `Inventory.run_lists`: after any steps, an inventory lists what finite sets hold after them
-/

namespace DepTriage

/-! ## One set -/

/-- The set lists exactly `members`, in strictly ascending order, and counts and finds them. -/
structure DependencySet.Lists (s : DependencySet) (members : Finset DependencyKey) : Prop where
  ascending : s.toList.Pairwise DependencyKey.Precedes
  mem_toList_iff : ∀ k, k ∈ s.toList ↔ k ∈ members
  length_toList : s.toList.length = members.card
  contains_eq : ∀ k, s.contains k = decide (k ∈ members)
  size_eq : s.size = members.card
  isEmpty_eq : s.isEmpty = decide (members = ∅)

namespace DependencySet

variable {s : DependencySet} {members : Finset DependencyKey}

/-- All that a set tells follows from which members it has. -/
theorem lists_of_mem_iff (h : ∀ k, k ∈ s ↔ k ∈ members) : s.Lists members := by
  have hmem : ∀ k, k ∈ s.toList ↔ k ∈ members := fun k => mem_toList.trans (h k)
  have hnodup : s.toList.Nodup := s.ascending_toList.imp DependencyKey.Precedes.ne
  -- Two lists of the same keys without duplicates are of one length, which is the size.
  have hlist : s.toList.toFinset = members := by
    ext k
    rw [List.mem_toFinset, hmem]
  have hlength : s.toList.length = members.card := by
    rw [← hlist, List.toFinset_card_of_nodup hnodup]
  have hsize : s.size = members.card := Std.TreeSet.length_toList.symm.trans hlength
  refine ⟨s.ascending_toList, hmem, hlength, fun k => ?_, hsize, ?_⟩
  · rw [Bool.eq_iff_iff, decide_eq_true_iff, ← h]
    exact Std.TreeSet.contains_iff_mem
  · rw [Bool.eq_iff_iff, decide_eq_true_iff, ← Finset.card_eq_zero, ← hsize]
    show s.keys.isEmpty = true ↔ s.keys.size = 0
    rw [Std.TreeSet.isEmpty_eq_size_eq_zero, beq_iff_eq]

theorem Lists.mem_iff (h : s.Lists members) {k : DependencyKey} : k ∈ s ↔ k ∈ members :=
  DependencySet.mem_toList.symm.trans (h.mem_toList_iff k)

theorem lists_toFinset (s : DependencySet) : s.Lists s.toList.toFinset :=
  lists_of_mem_iff fun k => by rw [List.mem_toFinset, mem_toList]

theorem lists_empty : ({} : DependencySet).Lists ∅ :=
  lists_of_mem_iff fun k => by simp [not_mem_empty]

theorem Lists.insert (h : s.Lists members) (key : DependencyKey) :
    (s.insert key).Lists (Insert.insert key members) :=
  lists_of_mem_iff fun k => by rw [mem_insert, Finset.mem_insert, h.mem_iff, eq_comm]

theorem lists_ofList (keys : List DependencyKey) : (ofList keys).Lists keys.toFinset :=
  lists_of_mem_iff fun k => by rw [mem_ofList, List.mem_toFinset]

theorem Lists.difference {base : DependencySet} {others : Finset DependencyKey}
    (h : s.Lists members) (hbase : base.Lists others) :
    (s.difference base).Lists (members \ others) :=
  lists_of_mem_iff fun k => by rw [mem_difference, Finset.mem_sdiff, h.mem_iff, hbase.mem_iff]

theorem Lists.union {other : DependencySet} {others : Finset DependencyKey}
    (h : s.Lists members) (hother : other.Lists others) :
    (s.union other).Lists (members ∪ others) :=
  lists_of_mem_iff fun k => by rw [mem_union, Finset.mem_union, h.mem_iff, hother.mem_iff]

theorem Lists.filter (h : s.Lists members) (keep : DependencyKey → Bool) :
    (s.filter keep).Lists (members.filter (keep ·)) :=
  lists_of_mem_iff fun k => by rw [mem_filter, Finset.mem_filter, h.mem_iff]

end DependencySet

/-! ## Finite sets by their names -/

/-- Named sets and named changes as finite sets of mathematics. -/
structure Catalogue where
  sets : String → Finset DependencyKey
  changes : String → Finset DependencyKey

namespace Catalogue

def empty : Catalogue :=
  ⟨fun _ => ∅, fun _ => ∅⟩

def putSet (c : Catalogue) (name : String) (members : Finset DependencyKey) : Catalogue :=
  { c with sets := Function.update c.sets name members }

def putChange (c : Catalogue) (name : String) (members : Finset DependencyKey) : Catalogue :=
  { c with changes := Function.update c.changes name members }

/-- What a step does to finite sets. -/
def step (c : Catalogue) : Inventory.Step → Catalogue
  | .insert name key => c.putSet name (insert key (c.sets name))
  | .load name format content =>
    match format.read content with
    | .ok s => c.putSet name s.toList.toFinset
    | .error _ => c
  | .collect name keys => c.putSet name keys.toFinset
  | .difference name set base => c.putChange name (c.sets set \ c.sets base)
  | .all name set => c.putChange name (c.sets set)
  | .union name other => c.putChange name (c.changes name ∪ c.changes other)
  | .dropIgnored name ignore =>
    c.putChange name {k ∈ c.changes name | ignore.covers k.name = false}
  | .contains .. | .changeContains .. => c

def run (c : Catalogue) (steps : List Inventory.Step) : Catalogue :=
  steps.foldl step c

/-- What a step answers: whether an inserted key is new, whether a key that is asked for is there,
and why a content cannot be loaded. -/
def answer (c : Catalogue) : Inventory.Step → Inventory.Answer
  | .insert name key => .truth (decide (key ∉ c.sets name))
  | .contains name key => .truth (decide (key ∈ c.sets name))
  | .changeContains name key => .truth (decide (key ∈ c.changes name))
  | .load _ format content =>
    match format.read content with
    | .ok _ => .none
    | .error e => .failure e
  | _ => .none

/-- The inventory lists what the catalogue holds, name by name. -/
structure ListedBy (c : Catalogue) (i : Inventory) : Prop where
  sets : ∀ name, (i.set name).Lists (c.sets name)
  changes : ∀ name, (i.change name).Lists (c.changes name)

end Catalogue

/-! ## Named sets and changes of an inventory -/

namespace Inventory

variable {i : Inventory} {name other : String} {s : DependencySet}

@[simp] theorem set_empty : ({} : Inventory).set name = {} := by
  simp [set]

@[simp] theorem change_empty : ({} : Inventory).change name = {} := by
  simp [change]

theorem set_putSet : (i.putSet name s).set other = if name = other then s else i.set other := by
  simp [set, putSet, Std.TreeMap.getD_insert]

theorem change_putChange :
    (i.putChange name s).change other = if name = other then s else i.change other := by
  simp [change, putChange, Std.TreeMap.getD_insert]

end Inventory

namespace Catalogue

variable {c : Catalogue} {i : Inventory} {name : String} {s : DependencySet}
  {members : Finset DependencyKey}

theorem listedBy_empty : empty.ListedBy {} where
  sets name := by
    rw [Inventory.set_empty]
    exact DependencySet.lists_empty
  changes name := by
    rw [Inventory.change_empty]
    exact DependencySet.lists_empty

theorem sets_putSet {other : String} :
    (c.putSet name members).sets other = if name = other then members else c.sets other := by
  rw [putSet]
  exact (Function.update_apply _ _ _ _).trans (if_congr eq_comm rfl rfl)

theorem changes_putChange {other : String} :
    (c.putChange name members).changes other =
      if name = other then members else c.changes other := by
  rw [putChange]
  exact (Function.update_apply _ _ _ _).trans (if_congr eq_comm rfl rfl)

theorem ListedBy.putSet (h : c.ListedBy i) (hs : s.Lists members) :
    (c.putSet name members).ListedBy (i.putSet name s) where
  sets other := by
    rw [Inventory.set_putSet, sets_putSet]
    split
    · exact hs
    · exact h.sets other
  changes other := h.changes other

theorem ListedBy.putChange (h : c.ListedBy i) (hs : s.Lists members) :
    (c.putChange name members).ListedBy (i.putChange name s) where
  sets other := h.sets other
  changes other := by
    rw [Inventory.change_putChange, changes_putChange]
    split
    · exact hs
    · exact h.changes other

/-- A step of an inventory does to what it lists what the step does to finite sets. -/
theorem ListedBy.step (h : c.ListedBy i) (s : Inventory.Step) :
    (c.step s).ListedBy (i.step s).2 := by
  cases s with
  | insert name key => exact h.putSet ((h.sets name).insert key)
  | load name format content =>
    -- A lock file that cannot be read alters nothing.
    simp only [Catalogue.step, Inventory.step]
    cases format.read content with
    | error e => exact h
    | ok s => exact h.putSet s.lists_toFinset
  | collect name keys => exact h.putSet (DependencySet.lists_ofList keys)
  | contains name key => exact h
  | difference name set base => exact h.putChange ((h.sets set).difference (h.sets base))
  | all name set => exact h.putChange (h.sets set)
  | union name other => exact h.putChange ((h.changes name).union (h.changes other))
  | dropIgnored name ignore =>
    have hfilter := (h.changes name).filter fun k => !ignore.covers k.name
    simp only [Bool.not_eq_true'] at hfilter
    exact h.putChange hfilter
  | changeContains name key => exact h

/-- The answer to a step is told by what the inventory lists. -/
theorem ListedBy.answer_eq (h : c.ListedBy i) (s : Inventory.Step) :
    (i.step s).1 = c.answer s := by
  -- Only the four questions look at what is stored.
  cases s with
  | insert name key =>
    simp only [Inventory.step, answer, (h.sets name).contains_eq, decide_not]
  | contains name key => simp only [Inventory.step, answer, (h.sets name).contains_eq]
  | changeContains name key => simp only [Inventory.step, answer, (h.changes name).contains_eq]
  | load name format content =>
    simp only [Inventory.step, answer]
    cases format.read content <;> rfl
  | _ => rfl

/-- After any steps, an inventory lists what finite sets hold after them. -/
theorem ListedBy.run (h : c.ListedBy i) (steps : List Inventory.Step) :
    (c.run steps).ListedBy (i.run steps) := by
  induction steps generalizing c i with
  | nil => exact h
  | cons s steps ih => exact ih (h.step s)

end Catalogue

namespace Inventory

variable {i : Inventory}

/-- The set that a step is about. -/
def Step.set? : Step → Option String
  | .insert name _ | .load name _ _ | .collect name _ => some name
  | _ => none

/-- The change that a step is about. -/
def Step.change? : Step → Option String
  | .difference name _ _ | .all name _ | .union name _ | .dropIgnored name _ => some name
  | _ => none

/-- A step alters nothing but the set or the change that it is about. -/
theorem step_frame (i : Inventory) (s : Step) :
    (∀ name, s.set? ≠ some name → (i.step s).2.set name = i.set name) ∧
      ∀ name, s.change? ≠ some name → (i.step s).2.change name = i.change name := by
  -- A set or change under another name stays where it was.
  have hset : ∀ name other t, some other ≠ some name → (i.putSet other t).set name = i.set name :=
    fun name other t h => by rw [set_putSet, if_neg fun heq => h (congrArg some heq)]
  have hchange : ∀ name other t, some other ≠ some name →
      (i.putChange other t).change name = i.change name :=
    fun name other t h => by rw [change_putChange, if_neg fun heq => h (congrArg some heq)]
  -- Each step writes to one name at most, and a failing load to none.
  cases s with
  | load name format content =>
    simp only [step]
    cases format.read content with
    | error e => exact ⟨fun _ _ => rfl, fun _ _ => rfl⟩
    | ok s => exact ⟨fun other h => hset other name _ h, fun _ _ => rfl⟩
  | insert name | collect name => exact ⟨fun other h => hset other name _ h, fun _ _ => rfl⟩
  | difference name | all name | union name | dropIgnored name =>
    exact ⟨fun _ _ => rfl, fun other h => hchange other name _ h⟩
  | contains | changeContains => exact ⟨fun _ _ => rfl, fun _ _ => rfl⟩

theorem step_load_of_error {name content : String} {format : LockFormat} {e : ScanError}
    (h : format.read content = .error e) :
    i.step (.load name format content) = (.failure e, i) := by
  rw [step, h]

/-- After any steps from the empty inventory, each set and each change lists in strictly ascending
order, and counts, what the finite sets of mathematics hold after the same steps. The next step,
too, answers what they tell. It alters nothing but the set or the change that it is about, and
nothing at all if it is to load a content that cannot be read. -/
theorem run_lists (steps : List Step) :
    let i := run {} steps
    let c := Catalogue.empty.run steps
    (∀ name, (i.set name).Lists (c.sets name)) ∧
      (∀ name, (i.change name).Lists (c.changes name)) ∧
      ∀ s : Step, (i.step s).1 = c.answer s ∧
        (∀ name, s.set? ≠ some name → (i.step s).2.set name = i.set name) ∧
        (∀ name, s.change? ≠ some name → (i.step s).2.change name = i.change name) ∧
        ∀ name format content e, s = .load name format content → format.read content = .error e →
          (i.step s).2 = i := by
  intro i c
  have hlisted : c.ListedBy i := Catalogue.listedBy_empty.run steps
  refine ⟨hlisted.sets, hlisted.changes, fun s => ⟨hlisted.answer_eq s, ?_, ?_, ?_⟩⟩
  · exact (step_frame i s).1
  · exact (step_frame i s).2
  · rintro name format content e rfl he
    rw [step_load_of_error he]

/-- What is new in one of two sets stays as it is while the other one grows, and while a text that
is no lock file is loaded. -/
theorem run_lists_new_package :
    let steps : List Step := [.insert "base" ⟨"left-pad", "1.0.0"⟩,
      .collect "head" [⟨"left-pad", "1.0.0"⟩, ⟨"chalk", "5.6.1"⟩], .difference "new" "head" "base"]
    let i := run {} steps
    (i.change "new").Lists {⟨"chalk", "5.6.1"⟩} ∧
      (i.step (.insert "base" ⟨"chalk", "5.6.1"⟩)).2.set "head" = i.set "head" ∧
      (i.step (.insert "base" ⟨"chalk", "5.6.1"⟩)).2.change "new" = i.change "new" ∧
      ∃ e, LockFormat.yarn.read "x" = .error e ∧ (i.step (.load "head" .yarn "x")).2 = i := by
  intro steps i
  obtain ⟨-, hchanges, hstep⟩ := run_lists steps
  obtain ⟨-, hset, hchange, -⟩ := hstep (.insert "base" ⟨"chalk", "5.6.1"⟩)
  obtain ⟨-, -, -, hload⟩ := hstep (.load "head" .yarn "x")
  -- The sets named by the catalogue are what the steps say they are.
  have hmembers : (Catalogue.empty.run steps).changes "new" = {⟨"chalk", "5.6.1"⟩} := by
    decide +kernel
  have hread : (LockFormat.yarn.read "x").toOption.isNone = true := by decide +kernel
  refine ⟨hmembers ▸ hchanges "new", hset "head" (by decide), hchange "new" (by decide), ?_⟩
  cases he : LockFormat.yarn.read "x" with
  | error e => exact ⟨e, rfl, hload "head" .yarn "x" e rfl he⟩
  | ok s =>
    rw [he] at hread
    exact absurd hread (by simp [Except.toOption])

end Inventory

end DepTriage
