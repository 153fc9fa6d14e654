import DepTriage.Dependency
import DepTriage.Proofs.Text.ByteOrder

/-! # Ordered dependencies

The order of dependencies, and what a set of them lists.

## Key results

- `DependencyKey.compare_eq_lt_iff`: dependencies are in the order of the bytes of their names, and
  then of their versions
- `DependencyKey.eq_of_ascending`: ascending lists with the same members are equal
- `DependencySet.ascending_toList`: the list of a set ascends, so that it has no member twice
- `DependencySet.toList_eq_of_mem_iff`: sets with the same members list them alike
-/

namespace DepTriage

namespace DependencyKey

/-- `a` comes before `b` in the order of the bytes of names, and then of versions. -/
def Precedes (a b : DependencyKey) : Prop :=
  Text.bytes a.name < Text.bytes b.name ∨
    (a.name = b.name ∧ Text.bytes a.version < Text.bytes b.version)

theorem compare_eq_lt_iff {a b : DependencyKey} : compare a b = .lt ↔ a.Precedes b := by
  show (compare a.name b.name).then (compare a.version b.version) = .lt ↔ _
  rw [Ordering.then_eq_lt, Text.compare_eq_lt_iff, Text.compare_eq_lt_iff,
    Std.LawfulEqOrd.compare_eq_iff_eq, Precedes]

theorem Precedes.irrefl (a : DependencyKey) : ¬a.Precedes a := by
  rw [← compare_eq_lt_iff, Std.ReflOrd.compare_self]
  exact nofun

theorem Precedes.trans {a b c : DependencyKey} (hab : a.Precedes b) (hbc : b.Precedes c) :
    a.Precedes c := by
  rw [← compare_eq_lt_iff] at *
  exact Std.TransCmp.lt_trans hab hbc

theorem Precedes.ne {a b : DependencyKey} (h : a.Precedes b) : a ≠ b := by
  rintro rfl
  exact irrefl a h

/-- An ascending list of dependencies is given by its members. -/
theorem eq_of_ascending {ks ls : List DependencyKey} (hks : ks.Pairwise Precedes)
    (hls : ls.Pairwise Precedes) (h : ∀ k, k ∈ ks ↔ k ∈ ls) : ks = ls := by
  have hperm : ks.Perm ls :=
    (List.perm_ext_iff_of_nodup (hks.imp Precedes.ne) (hls.imp Precedes.ne)).2 h
  exact hperm.eq_of_pairwise (fun a b _ _ hab hba => absurd (hab.trans hba) (Precedes.irrefl a)) hks
    hls

end DependencyKey

namespace DependencySet

theorem not_mem_empty {k : DependencyKey} : k ∉ ({} : DependencySet) :=
  Std.TreeSet.not_mem_emptyc

theorem mem_insert {s : DependencySet} {k other : DependencyKey} :
    other ∈ s.insert k ↔ k = other ∨ other ∈ s := by
  refine Std.TreeSet.mem_insert.trans ?_
  rw [Std.LawfulEqOrd.compare_eq_iff_eq]
  rfl

theorem mem_toList {s : DependencySet} {k : DependencyKey} : k ∈ s.toList ↔ k ∈ s :=
  Std.TreeSet.mem_toList

/-- The members of a set are listed in strictly ascending order. -/
theorem ascending_toList (s : DependencySet) : s.toList.Pairwise DependencyKey.Precedes :=
  s.keys.ordered_toList.imp fun h => DependencyKey.compare_eq_lt_iff.1 h

/-- The list of a set depends on its members only, not on how they were added. -/
theorem toList_eq_of_mem_iff {s t : DependencySet} (h : ∀ k, k ∈ s ↔ k ∈ t) :
    s.toList = t.toList :=
  (Std.TreeSet.Equiv.of_forall_mem_iff h).toList_eq

theorem mem_foldl_insert {ks : List DependencyKey} {s : DependencySet} {k : DependencyKey} :
    k ∈ ks.foldl insert s ↔ k ∈ s ∨ k ∈ ks := by
  induction ks generalizing s with
  | nil => simp
  | cons other ks ih =>
    rw [List.foldl_cons, ih, mem_insert, List.mem_cons, or_assoc, or_left_comm, eq_comm]

theorem mem_ofList {ks : List DependencyKey} {k : DependencyKey} : k ∈ ofList ks ↔ k ∈ ks := by
  have hempty : k ∉ empty := not_mem_empty
  rw [ofList, mem_foldl_insert]
  exact or_iff_right hempty

theorem mem_union {s t : DependencySet} {k : DependencyKey} : k ∈ s.union t ↔ k ∈ s ∨ k ∈ t := by
  rw [union, mem_foldl_insert, mem_toList]

theorem mem_filter {s : DependencySet} {keep : DependencyKey → Bool} {k : DependencyKey} :
    k ∈ s.filter keep ↔ k ∈ s ∧ keep k = true := by
  show k ∈ s.keys.filter keep ↔ k ∈ s.keys ∧ keep k = true
  rw [Std.TreeSet.mem_filter]
  simp

theorem mem_difference {s base : DependencySet} {k : DependencyKey} :
    k ∈ s.difference base ↔ k ∈ s ∧ k ∉ base := by
  rw [difference, mem_filter]
  show k ∈ s ∧ (!base.keys.contains k) = true ↔ k ∈ s ∧ k ∉ base.keys
  simp [← Std.TreeSet.contains_iff_mem]

/-- Only the list of a result can be computed, which tells that there is a set with this list. -/
theorem exists_eq_ok_of_toList {ε : Type} {result : Except ε DependencySet}
    {ks : List DependencyKey} (h : result.toOption.map toList = some ks) :
    ∃ s, result = .ok s ∧ s.toList = ks := by
  cases result with
  | error e => exact nomatch h
  | ok s => exact ⟨s, rfl, Option.some.inj h⟩

end DependencySet

end DepTriage
