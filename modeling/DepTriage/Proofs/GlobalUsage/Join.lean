import DepTriage.Proofs.GlobalUsage
import DepTriage.Proofs.Text.ByteOrder
import Mathlib.Order.Bounds.Defs
import Mathlib.Data.Set.Insert

/-!
# Usages as joins

A usage is the join of the references that went into it: each name has the strongest access among
its references, and a name without references is not there. A merge therefore joins what the two
usages were joined of.

## Key results

- `GlobalUsage.ascending_toList`: names are listed in strictly ascending order of their bytes
- `GlobalUsage.Joins.unique`: the references tell the whole usage
- `GlobalUsage.Joins.recordAll`, `GlobalUsage.Joins.merge`: recording and merging add references
- `GlobalUsage.Joins.le_iff`, `GlobalUsage.toList_eq_iff`: comparing usages by their references
- `GlobalUsage.toList_merge_comm`, `GlobalUsage.toList_merge_assoc`,
  `GlobalUsage.toList_merge_self`: the laws of merging
-/

namespace DepTriage.GlobalUsage

variable {u v : GlobalUsage} {R S : Set (String × Access)}

/-! ## What a usage lists -/

theorem mem_toList {name : String} {a : Access} : (name, a) ∈ u.toList ↔ u.get? name = some a :=
  Std.TreeMap.mem_toList_iff_getElem?_eq_some

/-- A usage lists its names in strictly ascending order of their bytes. -/
theorem ascending_toList (u : GlobalUsage) :
    u.toList.Pairwise fun r s => Text.bytes r.1 < Text.bytes s.1 :=
  u.accesses.ordered_keys_toList.imp fun h => Text.compare_eq_lt_iff.1 h

/-- The list of a usage depends on the access of each name only, not on how it came about. -/
theorem toList_eq_of_get?_eq (h : ∀ name, u.get? name = v.get? name) : u.toList = v.toList :=
  (Std.TreeMap.Equiv.of_forall_constGet?_eq h).toList_eq

/-! ## Joins -/

/-- Each name has the strongest access that stands beside it among the references. -/
structure Joins (u : GlobalUsage) (references : Set (String × Access)) : Prop where
  get?_eq_some_iff : ∀ name a, u.get? name = some a ↔ IsGreatest {b | (name, b) ∈ references} a
  get?_eq_none_iff : ∀ name, u.get? name = none ↔ ∀ a, (name, a) ∉ references

theorem Joins.get?_eq_readWrite_iff (h : u.Joins R) {name : String} :
    u.get? name = some .readWrite ↔ (name, Access.readWrite) ∈ R := by
  rw [h.get?_eq_some_iff]
  refine ⟨fun hgreatest => hgreatest.1, fun hmem => ⟨hmem, fun b _ => ?_⟩⟩
  cases b <;> rfl

/-- A usage is told by the names that it has and by those that are written. -/
theorem joins_of_iff
    (hwrite : ∀ name, u.get? name = some .readWrite ↔ (name, Access.readWrite) ∈ R)
    (hnone : ∀ name, u.get? name = none ↔ ∀ a, (name, a) ∉ R) : u.Joins R := by
  refine ⟨fun name a => ?_, hnone⟩
  cases a with
  | readWrite =>
    rw [hwrite]
    refine ⟨fun hmem => ⟨hmem, fun b _ => ?_⟩, fun hgreatest => hgreatest.1⟩
    cases b <;> rfl
  | read =>
    constructor
    · intro hread
      -- The name has a reference, and none of them is a write.
      have hnot : (name, Access.readWrite) ∉ R := by
        rw [← hwrite, hread]
        simp
      have hsome : ∃ a, (name, a) ∈ R := by
        by_contra hall
        have := (hnone name).2 fun a ha => hall ⟨a, ha⟩
        rw [hread] at this
        exact nomatch this
      obtain ⟨a, ha⟩ := hsome
      have hall : ∀ b, (name, b) ∈ R → b = .read := fun b hb =>
        Access.eq_read_of_ne fun e => hnot (e ▸ hb)
      refine ⟨hall a ha ▸ ha, fun b hb => ?_⟩
      rw [hall b hb]
      exact Access.le_refl _
    · rintro ⟨hmem, hbound⟩
      have hnot : u.get? name ≠ some .readWrite := fun hw => by
        have hle : Access.readWrite ≤ Access.read := hbound ((hwrite name).1 hw)
        exact nomatch (show Access.readWrite = Access.read from hle)
      cases hget : u.get? name with
      | none => exact absurd hmem ((hnone name).1 hget _)
      | some a => rw [Access.eq_read_of_ne fun e => hnot (e ▸ hget)]

theorem Joins.congr (h : u.Joins R) (hRS : ∀ r, r ∈ R ↔ r ∈ S) : u.Joins S := by
  rwa [← Set.ext hRS]

/-- Two joins of the same references have the same access for each name. -/
theorem Joins.unique (hu : u.Joins R) (hv : v.Joins R) (name : String) :
    u.get? name = v.get? name := by
  cases hget : v.get? name with
  | none => rw [hu.get?_eq_none_iff, ← hv.get?_eq_none_iff, hget]
  | some a => rw [hu.get?_eq_some_iff, ← hv.get?_eq_some_iff, hget]

theorem Joins.toList_eq (hu : u.Joins R) (hv : v.Joins R) : u.toList = v.toList :=
  toList_eq_of_get?_eq (hu.unique hv)

theorem joins_empty : ({} : GlobalUsage).Joins ∅ :=
  joins_of_iff (fun name => by simp) (fun name => by simp)

theorem Joins.recordAll (h : u.Joins R) (references : List (String × Access)) :
    (u.recordAll references).Joins (R ∪ {r | r ∈ references}) := by
  refine joins_of_iff (fun name => ?_) (fun name => ?_)
  · rw [get?_recordAll_eq_readWrite, h.get?_eq_readWrite_iff]
    rfl
  · rw [get?_recordAll_eq_none, h.get?_eq_none_iff, ← forall_and]
    exact forall_congr' fun a => not_or.symm

theorem Joins.record (h : u.Joins R) (name : String) (a : Access) :
    (u.record name a).Joins (R ∪ {(name, a)}) := by
  have hone := h.recordAll [(name, a)]
  simp only [List.mem_singleton, Set.ofPred_eq_eq_singleton] at hone
  exact hone

theorem joins_ofList (references : List (String × Access)) :
    (ofList references).Joins {r | r ∈ references} := by
  have hempty := joins_empty.recordAll references
  rwa [Set.empty_union] at hempty

/-- A usage is the join of what it lists. -/
theorem joins_toList (u : GlobalUsage) : u.Joins {r | r ∈ u.toList} :=
  joins_of_iff (fun _ => mem_toList.symm) fun name => by
    rw [Option.eq_none_iff_forall_ne_some]
    exact forall_congr' fun a => not_congr mem_toList.symm

/-- A merge joins what either usage was joined of. -/
theorem Joins.merge (hu : u.Joins R) (hv : v.Joins S) : (u.merge v).Joins (R ∪ S) := by
  -- Merging records the listed accesses of the other usage, so it joins the union of both.
  have hlist := hu.recordAll v.toList
  refine joins_of_iff (fun name => ?_) (fun name => ?_)
  · rw [GlobalUsage.merge, hlist.get?_eq_readWrite_iff, Set.mem_union, Set.mem_union,
      ← hv.get?_eq_readWrite_iff, ← mem_toList]
    rfl
  -- That a name is nowhere listed is that it is nowhere in what was joined.
  · have hnone : (∀ a, (name, a) ∉ v.toList) ↔ ∀ a, (name, a) ∉ S := by
      rw [← hv.get?_eq_none_iff, (joins_toList v).get?_eq_none_iff]
      rfl
    rw [GlobalUsage.merge, hlist.get?_eq_none_iff]
    simp only [Set.mem_union, not_or, forall_and, ← hnone]
    rfl

/-! ## Comparing usages -/

/-- A usage has a reference if the name is in it with an access at least as strong. -/
def Covers (u : GlobalUsage) (r : String × Access) : Prop :=
  ∃ a, u.get? r.1 = some a ∧ r.2 ≤ a

theorem Joins.covers (h : u.Joins R) {r : String × Access} (hr : r ∈ R) : u.Covers r := by
  cases hget : u.get? r.1 with
  | none => exact absurd hr ((h.get?_eq_none_iff r.1).1 hget r.2)
  | some a => exact ⟨a, hget, ((h.get?_eq_some_iff r.1 a).1 hget).2 hr⟩

/-- A usage lists something as soon as something was recorded. -/
theorem toList_ofList_ne_nil {references : List (String × Access)} (h : references ≠ []) :
    (ofList references).toList ≠ [] := by
  obtain ⟨⟨name, a⟩, hr⟩ := List.exists_mem_of_ne_nil _ h
  obtain ⟨b, hb, -⟩ := (joins_ofList references).covers hr
  exact List.ne_nil_of_mem (mem_toList.2 hb)

/-- A join is below every usage that has all of its references. -/
theorem Joins.le_iff (h : u.Joins R) : u ≤ v ↔ ∀ r ∈ R, v.Covers r := by
  constructor
  · intro hle r hr
    obtain ⟨a, ha, hra⟩ := h.covers hr
    obtain ⟨b, hb, hab⟩ := hle r.1 a ha
    exact ⟨b, hb, Access.le_trans hra hab⟩
  · intro hall name a ha
    exact hall (name, a) ((h.get?_eq_some_iff name a).1 ha).1

/-- Of two usages that are below each other, each has what the other has. -/
theorem get?_eq_some_of_le (huv : u ≤ v) (hvu : v ≤ u) {name : String} {a : Access}
    (ha : u.get? name = some a) : v.get? name = some a := by
  obtain ⟨b, hb, hab⟩ := huv name a ha
  obtain ⟨c, hc, hbc⟩ := hvu name b hb
  obtain rfl : a = c := Option.some.inj (ha.symm.trans hc)
  rw [Access.le_antisymm hab hbc, hb]

theorem toList_eq_iff : u.toList = v.toList ↔ u ≤ v ∧ v ≤ u := by
  constructor
  · intro hlist
    -- A listing determines every lookup, since the listing is what a usage joins.
    have hget : ∀ name, u.get? name = v.get? name :=
      u.joins_toList.unique (by rw [hlist]; exact v.joins_toList)
    exact ⟨fun name a ha => ⟨a, hget name ▸ ha, a.le_refl⟩,
      fun name a ha => ⟨a, hget name ▸ ha, a.le_refl⟩⟩
  · rintro ⟨huv, hvu⟩
    exact toList_eq_of_get?_eq fun name => Option.ext fun a =>
      ⟨get?_eq_some_of_le huv hvu, get?_eq_some_of_le hvu huv⟩

/-! ## The laws of merging -/

theorem toList_merge_comm (u v : GlobalUsage) : (u.merge v).toList = (v.merge u).toList := by
  have h := v.joins_toList.merge u.joins_toList
  rw [Set.union_comm] at h
  exact (u.joins_toList.merge v.joins_toList).toList_eq h

theorem toList_merge_assoc (u v w : GlobalUsage) :
    ((u.merge v).merge w).toList = (u.merge (v.merge w)).toList := by
  have h := u.joins_toList.merge (v.joins_toList.merge w.joins_toList)
  rw [← Set.union_assoc] at h
  exact ((u.joins_toList.merge v.joins_toList).merge w.joins_toList).toList_eq h

theorem toList_merge_self (u : GlobalUsage) : (u.merge u).toList = u.toList := by
  have h := u.joins_toList.merge u.joins_toList
  rw [Set.union_self] at h
  exact h.toList_eq u.joins_toList

end DepTriage.GlobalUsage
