import DepTriage.CommandLine.Run
import Mathlib.Algebra.Ring.Nat

/-!
# Summaries of results

A result is summed up in several ways: a ranking of its dependencies, the number of its findings,
their number for each severity, the worst severity, and the exit code of a run. Each is computed on
its own. Here all of them are tied to the findings, and so to each other.

## Key results

- `Severity.highest?_eq_some_iff`: the worst severity of a list
- `Severity.isWorst_filterMap_highest?`: it is the worst one of those of its parts
- `ScanResult.ranked_filter`: dependencies with as many findings as each other stay in order
- `ScanResult.highestSeverity?_eq_some_iff`: the worst severity by the numbers of findings
- `ScanResult.summary_agrees`: all of them together, and the exit code
-/

namespace DepTriage

/-! ## The worst of severities -/

namespace Severity

/-- A member of the list that no other one exceeds. -/
def IsWorst (severities : List Severity) (worst : Severity) : Prop :=
  worst ∈ severities ∧ ∀ s ∈ severities, s.rank ≤ worst.rank

variable {a b worst : Severity} {severities : List Severity}

theorem eq_of_rank_eq (h : a.rank = b.rank) : a = b := by
  revert h
  cases a <;> cases b <;> decide

theorem max_cases (a b : Severity) :
    (max a b = a ∧ b.rank ≤ a.rank) ∨ (max a b = b ∧ a.rank ≤ b.rank) := by
  rw [max]
  split
  · next hlt => exact .inr ⟨rfl, Nat.le_of_lt hlt⟩
  · next hle => exact .inl ⟨rfl, Nat.le_of_not_lt hle⟩

theorem IsWorst.unique (ha : IsWorst severities a) (hb : IsWorst severities b) : a = b :=
  eq_of_rank_eq (Nat.le_antisymm (hb.2 a ha.1) (ha.2 b hb.1))

/-- The worse one of two severities stands for both of them. -/
theorem IsWorst.of_max (h : IsWorst (max a b :: severities) worst) :
    IsWorst (a :: b :: severities) worst := by
  obtain ⟨hmem, hle⟩ := h
  obtain ⟨hmax, hrest⟩ := List.forall_mem_cons.1 hle
  rw [List.mem_cons] at hmem
  -- The larger of the first two is one of them, and it bounds the other.
  rcases max_cases a b with ⟨heq, hab⟩ | ⟨heq, hab⟩
  · rw [heq] at hmem hmax
    refine ⟨List.mem_cons.2 (hmem.imp_right (List.mem_cons_of_mem b)), ?_⟩
    exact List.forall_mem_cons.2 ⟨hmax, List.forall_mem_cons.2 ⟨Nat.le_trans hab hmax, hrest⟩⟩
  · rw [heq] at hmem hmax
    refine ⟨List.mem_cons_of_mem a (List.mem_cons.2 hmem), ?_⟩
    exact List.forall_mem_cons.2 ⟨Nat.le_trans hab hmax, List.forall_mem_cons.2 ⟨hmax, hrest⟩⟩

theorem exists_foldl_eq (first : Severity) (severities : List Severity) :
    ∃ worst, severities.foldl (fun worst s => some ((worst.map (max · s)).getD s)) (some first) =
      some worst ∧ IsWorst (first :: severities) worst := by
  induction severities generalizing first with
  | nil => exact ⟨first, rfl, by simp [IsWorst]⟩
  | cons s severities ih =>
    obtain ⟨worst, hfold, hworst⟩ := ih (max first s)
    exact ⟨worst, hfold, hworst.of_max⟩

theorem exists_highest?_cons (s : Severity) (severities : List Severity) :
    ∃ worst, highest? (s :: severities) = some worst ∧ IsWorst (s :: severities) worst :=
  exists_foldl_eq s severities

theorem highest?_eq_some_iff : highest? severities = some worst ↔ IsWorst severities worst := by
  cases severities with
  | nil => exact iff_of_false nofun fun h => nomatch h.1
  | cons s severities =>
    obtain ⟨found, hfound, hworst⟩ := exists_highest?_cons s severities
    rw [hfound, Option.some.injEq]
    constructor
    · rintro rfl
      exact hworst
    · exact hworst.unique

theorem highest?_eq_none_iff : highest? severities = none ↔ severities = [] := by
  cases severities with
  | nil => exact iff_of_true rfl rfl
  | cons s severities =>
    obtain ⟨worst, hworst, -⟩ := exists_highest?_cons s severities
    rw [hworst]
    exact iff_of_false nofun (List.cons_ne_nil _ _)

/-- The worst of what is worst in each of some lists is the worst of them together. -/
theorem isWorst_filterMap_highest? {lists : List (List Severity)} :
    IsWorst (lists.filterMap highest?) worst ↔ IsWorst lists.flatten worst := by
  -- A member of a list does not exceed the worst one of it.
  have hexceeded : ∀ s ∈ lists.flatten, ∃ t ∈ lists.filterMap highest?, s.rank ≤ t.rank := by
    intro s hs
    obtain ⟨severities, hlist, hmem⟩ := List.mem_flatten.1 hs
    obtain ⟨first, others, rfl⟩ := List.exists_cons_of_ne_nil (List.ne_nil_of_mem hmem)
    obtain ⟨t, ht, hworst⟩ := exists_highest?_cons first others
    exact ⟨t, List.mem_filterMap.2 ⟨_, hlist, ht⟩, hworst.2 s hmem⟩
  have hsubset : ∀ t ∈ lists.filterMap highest?, t ∈ lists.flatten := by
    intro t ht
    obtain ⟨severities, hlist, hhighest⟩ := List.mem_filterMap.1 ht
    exact List.mem_flatten.2 ⟨severities, hlist, (highest?_eq_some_iff.1 hhighest).1⟩
  constructor
  · rintro ⟨hmem, hle⟩
    refine ⟨hsubset worst hmem, fun s hs => ?_⟩
    obtain ⟨t, ht, hst⟩ := hexceeded s hs
    exact Nat.le_trans hst (hle t ht)
  · rintro ⟨hmem, hle⟩
    obtain ⟨t, ht, hworst⟩ := hexceeded worst hmem
    obtain rfl := eq_of_rank_eq (Nat.le_antisymm hworst (hle t (hsubset t ht)))
    exact ⟨ht, fun s hs => hle s (hsubset s hs)⟩

end Severity

namespace ScanResult

open CommandLine (resultCode)

variable (r : ScanResult)

/-! ## Rankings -/

theorem ranked_perm : r.ranked.Perm r.dependencies :=
  List.mergeSort_perm _ _

private theorem ranks_trans (a b c : ScannedDependency) :
    decide (b.findings.length ≤ a.findings.length) = true →
      decide (c.findings.length ≤ b.findings.length) = true →
      decide (c.findings.length ≤ a.findings.length) = true := by
  simp only [decide_eq_true_eq]
  omega

private theorem ranks_total (a b : ScannedDependency) :
    (decide (b.findings.length ≤ a.findings.length) ||
      decide (a.findings.length ≤ b.findings.length)) = true := by
  simp only [Bool.or_eq_true, decide_eq_true_eq]
  omega

theorem ranked_pairwise : r.ranked.Pairwise fun a b => b.findings.length ≤ a.findings.length :=
  (List.pairwise_mergeSort ranks_trans ranks_total r.dependencies).imp of_decide_eq_true

/-- Dependencies with as many findings as each other stay in order. -/
theorem ranked_filter (count : Nat) :
    (r.ranked.filter fun d => d.findings.length == count) =
      r.dependencies.filter fun d => d.findings.length == count := by
  have hequal : (r.dependencies.filter fun d => d.findings.length == count).Pairwise
      fun a b => decide (b.findings.length ≤ a.findings.length) = true := by
    refine List.pairwise_of_forall_mem_list fun a ha b hb => ?_
    have ha := beq_iff_eq.1 (List.mem_filter.1 ha).2
    have hb := beq_iff_eq.1 (List.mem_filter.1 hb).2
    exact decide_eq_true (by omega)
  -- They are in order already, so that sorting keeps them as a sublist; none of them is lost.
  have hsublist := (List.sublist_mergeSort ranks_trans ranks_total hequal
    List.filter_sublist).filter fun d => d.findings.length == count
  rw [List.filter_filter] at hsublist
  simp only [Bool.and_self] at hsublist
  exact (hsublist.eq_of_length (r.ranked_perm.filter _).length_eq.symm).symm

/-! ## Totals -/

theorem totalFindings_eq_sum :
    r.totalFindings = (r.dependencies.map fun d => d.findings.length).sum :=
  List.length_flatMap

theorem countSeverity_sum :
    r.countSeverity .low + r.countSeverity .medium + r.countSeverity .high = r.totalFindings := by
  simp only [countSeverity, totalFindings]
  induction r.findings with
  | nil => rfl
  | cons f findings ih =>
    simp only [List.countP_cons, List.length_cons]
    cases f.severity <;> simp <;> omega

theorem countSeverity_pos_iff {s : Severity} :
    0 < r.countSeverity s ↔ s ∈ r.findings.map (·.severity) := by
  rw [countSeverity, List.countP_pos_iff, List.mem_map]
  simp

theorem highestSeverity?_eq :
    r.highestSeverity? = Severity.highest? (r.findings.map (·.severity)) := by
  have hlists : r.dependencies.filterMap (·.highestSeverity?) =
      (r.dependencies.map fun d => d.findings.map (·.severity)).filterMap Severity.highest? := by
    rw [List.filterMap_map]
    rfl
  have hflatten : r.findings.map (·.severity) =
      (r.dependencies.map fun d => d.findings.map (·.severity)).flatten := by
    rw [findings, List.map_flatMap, List.flatMap_def]
  -- A severity is the worst of all findings exactly if it is the worst of the packages' worst.
  refine Option.ext fun worst => ?_
  rw [highestSeverity?, hlists, hflatten, Severity.highest?_eq_some_iff,
    Severity.highest?_eq_some_iff, Severity.isWorst_filterMap_highest?]

/-- The worst severity is the greatest one of which there is a finding. -/
theorem highestSeverity?_eq_some_iff {worst : Severity} :
    r.highestSeverity? = some worst ↔ 0 < r.countSeverity worst ∧
      ∀ s, worst.rank < s.rank → r.countSeverity s = 0 := by
  rw [highestSeverity?_eq, Severity.highest?_eq_some_iff, Severity.IsWorst, countSeverity_pos_iff]
  refine and_congr_right fun _ => forall_congr' fun s => ?_
  rw [← countSeverity_pos_iff]
  omega

theorem highestSeverity?_eq_none_iff : r.highestSeverity? = none ↔ r.findings = [] := by
  rw [highestSeverity?_eq, Severity.highest?_eq_none_iff, List.map_eq_nil_iff]

/-! ## Exit codes -/

theorem resultCode_of_highestSeverity? {worst : Severity} (h : r.highestSeverity? = some worst)
    (threshold : Severity) :
    resultCode r (some threshold) =
      if threshold.rank ≤ worst.rank then CommandLine.severityCode worst else 0 := by
  simp only [resultCode, h]

theorem resultCode_of_eq_none (h : r.highestSeverity? = none) (threshold : Severity) :
    resultCode r (some threshold) = 0 := by
  simp only [resultCode, h]

/-- A run ends without complaint if there is no finding of a severity from the threshold on. -/
theorem resultCode_eq_zero_iff {threshold : Severity} :
    resultCode r (some threshold) = 0 ↔
      ∀ s, threshold.rank ≤ s.rank → r.countSeverity s = 0 := by
  cases hhighest : r.highestSeverity? with
  | none =>
    have hnothing := r.highestSeverity?_eq_none_iff.1 hhighest
    refine iff_of_true (r.resultCode_of_eq_none hhighest threshold) fun s _ => ?_
    rw [countSeverity, hnothing]
    rfl
  | some worst =>
    obtain ⟨hfound, hworse⟩ := r.highestSeverity?_eq_some_iff.1 hhighest
    have hcode : CommandLine.severityCode worst ≠ 0 := by cases worst <;> decide
    rw [r.resultCode_of_highestSeverity? hhighest]
    constructor
    -- A code of zero puts the worst finding below the threshold, and with it all others.
    · intro hzero s hs
      have hlt : ¬threshold.rank ≤ worst.rank := fun hle => hcode (by rwa [if_pos hle] at hzero)
      exact hworse s (by omega)
    · intro hnone
      rw [if_neg]
      intro hle
      rw [hnone worst hle] at hfound
      exact Nat.lt_irrefl 0 hfound

/-- The ranking holds the dependencies in the order of their numbers of findings, and those with as
many as each other as they were. The numbers of findings of all severities add up to the total, and
the worst severity is the greatest one of which there are any. A run ends with the code 0 if there
are none of the severities from the threshold on, and otherwise with a code that tells the worst. -/
theorem summary_agrees :
    (r.ranked.Perm r.dependencies ∧
      (r.ranked.Pairwise fun a b => b.findings.length ≤ a.findings.length) ∧
      ∀ count, (r.ranked.filter fun d => d.findings.length == count) =
        r.dependencies.filter fun d => d.findings.length == count) ∧
    (r.totalFindings = (r.dependencies.map fun d => d.findings.length).sum ∧
      r.countSeverity .low + r.countSeverity .medium + r.countSeverity .high = r.totalFindings) ∧
    ((∀ worst, r.highestSeverity? = some worst ↔ 0 < r.countSeverity worst ∧
        ∀ s, worst.rank < s.rank → r.countSeverity s = 0) ∧
      (r.highestSeverity? = none ↔ r.findings = [])) ∧
    ∀ threshold,
      (resultCode r (some threshold) = 0 ↔
        ∀ s, threshold.rank ≤ s.rank → r.countSeverity s = 0) ∧
      (resultCode r (some threshold) ≠ 0 →
        (r.highestSeverity? = some .high ∧ resultCode r (some threshold) = 2) ∨
        (r.highestSeverity? = some .medium ∧ resultCode r (some threshold) = 3) ∨
        (r.highestSeverity? = some .low ∧ resultCode r (some threshold) = 4)) := by
  refine ⟨⟨r.ranked_perm, r.ranked_pairwise, r.ranked_filter⟩,
    ⟨r.totalFindings_eq_sum, r.countSeverity_sum⟩,
    ⟨fun worst => r.highestSeverity?_eq_some_iff, r.highestSeverity?_eq_none_iff⟩,
    fun threshold => ⟨r.resultCode_eq_zero_iff, fun hne => ?_⟩⟩
  -- What fails the threshold is the worst finding, and its severity gives the code.
  cases hhighest : r.highestSeverity? with
  | none => exact absurd (r.resultCode_of_eq_none hhighest threshold) hne
  | some worst =>
    rw [r.resultCode_of_highestSeverity? hhighest] at hne ⊢
    have hle : threshold.rank ≤ worst.rank :=
      Decidable.byContradiction fun hlt => hne (if_neg hlt)
    rw [if_pos hle]
    cases worst with
    | high => exact .inl ⟨rfl, rfl⟩
    | medium => exact .inr (.inl ⟨rfl, rfl⟩)
    | low => exact .inr (.inr ⟨rfl, rfl⟩)

end ScanResult

end DepTriage
