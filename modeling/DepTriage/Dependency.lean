import Std.Data.TreeSet

/-! # Dependencies

A dependency is a resolved `name@version` pair. A `DependencySet` lists its members in ascending
order of name and then of version; it stands for what a lock file pins, and also for what a change
introduces. -/

namespace DepTriage

structure DependencyKey where
  name : String
  version : String
deriving DecidableEq, Repr, Inhabited

namespace DependencyKey

def label (k : DependencyKey) : String :=
  s!"{k.name}@{k.version}"

/-- Keys are compared by name and then by version. -/
instance : Ord DependencyKey :=
  ⟨compareLex (compareOn DependencyKey.name) (compareOn DependencyKey.version)⟩

instance : Std.TransOrd DependencyKey :=
  inferInstanceAs (Std.TransCmp
    (compareLex (compareOn DependencyKey.name) (compareOn DependencyKey.version)))

instance : Std.LawfulEqOrd DependencyKey where
  eq_of_compare {a b} h := by
    have h : (compare a.name b.name).then (compare a.version b.version) = .eq := h
    obtain ⟨hn, hv⟩ := Ordering.then_eq_eq.1 h
    cases a
    cases b
    simp_all

end DependencyKey

structure DependencySet where
  keys : Std.TreeSet DependencyKey := ∅

namespace DependencySet

def empty : DependencySet := {}

instance : Inhabited DependencySet := ⟨empty⟩

def insert (s : DependencySet) (k : DependencyKey) : DependencySet :=
  ⟨s.keys.insert k⟩

def contains (s : DependencySet) (k : DependencyKey) : Bool :=
  s.keys.contains k

instance : Membership DependencyKey DependencySet := ⟨fun s k => k ∈ s.keys⟩

/-- The members in ascending order. -/
def toList (s : DependencySet) : List DependencyKey :=
  s.keys.toList

def ofList (ks : List DependencyKey) : DependencySet :=
  ks.foldl insert empty

def size (s : DependencySet) : Nat :=
  s.keys.size

def isEmpty (s : DependencySet) : Bool :=
  s.keys.isEmpty

/-- The members that satisfy `keep`. -/
def filter (s : DependencySet) (keep : DependencyKey → Bool) : DependencySet :=
  ⟨s.keys.filter keep⟩

/-- The members of `s` that `base` lacks. -/
def difference (s base : DependencySet) : DependencySet :=
  s.filter fun k => !base.contains k

def union (s other : DependencySet) : DependencySet :=
  other.toList.foldl insert s

end DependencySet

end DepTriage
