import DepTriage.Proofs.GlobalUsage.Join
import DepTriage.UsageLedger
import Mathlib.Data.List.Induction

/-!
# Ledgers of usages join what reaches them

What a usage of a ledger holds is told by the references that have reached it, directly or with
other usages, since it was last collected. Neither their order nor how often they came matters.

## Key results

- `UsageLedger.Reaches`: the references that have reached a usage
- `UsageLedger.joins_reaching`: a usage is the join of the references that have reached it
- `UsageLedger.joins_brought`: what records and merges bring to a usage while the usages that are
  merged in stay as they are
- `UsageLedger.run_joins`: both together, with the laws of merging
-/

namespace DepTriage.UsageLedger

variable {l : UsageLedger} {steps : List Step} {s : Step} {usage other : String}
  {r : String × Access}

/-! ## One step -/

/-- The usage that a step may alter. -/
def Step.target? : Step → Option String
  | .record usage _ _ | .merge usage _ | .collect usage _ => some usage
  | .get .. | .equals .. => none

@[simp] theorem usage_empty : ({} : UsageLedger).usage usage = {} := by
  simp [UsageLedger.usage]

theorem usage_put {u : GlobalUsage} :
    (l.put usage u).usage other = if usage = other then u else l.usage other := by
  simp [UsageLedger.usage, put, Std.TreeMap.getD_insert]

theorem usage_put_self {u : GlobalUsage} : (l.put usage u).usage usage = u := by
  rw [usage_put, if_pos rfl]

/-- A step alters no other usage than its target. -/
theorem usage_step_of_ne (h : s.target? ≠ some usage) :
    (l.step s).2.usage usage = l.usage usage := by
  have hput : ∀ target u, some target ≠ some usage → (l.put target u).usage usage = l.usage usage :=
    fun target u hne => by rw [usage_put, if_neg fun heq => hne (congrArg some heq)]
  cases s with
  | record target | merge target | collect target => exact hput target _ h
  | get | equals => rfl

/-- A step alters its target by a reference or by another usage, or it collects it anew. -/
theorem usage_step_of_target (l : UsageLedger) (h : s.target? = some usage) :
    (∃ name a, s = .record usage name a ∧
      (l.step s).2.usage usage = (l.usage usage).record name a) ∨
    (∃ other, s = .merge usage other ∧
      (l.step s).2.usage usage = (l.usage usage).merge (l.usage other)) ∨
    ∃ references, s = .collect usage references ∧
      (l.step s).2.usage usage = .ofList references := by
  cases s with
  | record target name a =>
    obtain rfl := Option.some.inj h
    exact .inl ⟨name, a, rfl, usage_put_self⟩
  | merge target other =>
    obtain rfl := Option.some.inj h
    exact .inr (.inl ⟨other, rfl, usage_put_self⟩)
  | collect target references =>
    obtain rfl := Option.some.inj h
    exact .inr (.inr ⟨references, rfl, usage_put_self⟩)
  | get | equals => exact nomatch h

theorem run_concat : l.run (steps ++ [s]) = ((l.run steps).step s).2 := by
  rw [run, List.foldl_append]
  rfl

/-- A usage that no step alters stays as it is. -/
theorem usage_run_of_ne (h : ∀ s ∈ steps, s.target? ≠ some usage) :
    (l.run steps).usage usage = l.usage usage := by
  induction steps using List.reverseRecOn with
  | nil => rfl
  | append_singleton steps s ih =>
    rw [run_concat, usage_step_of_ne (h s (by simp))]
    exact ih fun s hs => h s (by simp [hs])

/-! ## What reaches a usage -/

/-- After the steps, `r` has reached a usage: it was recorded there, or it came with another usage
that was merged in, or it was among what the usage was collected of; and since then, the usage was
not collected anew. -/
inductive Reaches (r : String × Access) : List Step → String → Prop
  | record {steps : List Step} {usage : String} :
    Reaches r (steps ++ [.record usage r.1 r.2]) usage
  | collect {steps : List Step} {usage : String} {references : List (String × Access)} :
    r ∈ references → Reaches r (steps ++ [.collect usage references]) usage
  | merge {steps : List Step} {usage other : String} :
    Reaches r steps other → Reaches r (steps ++ [.merge usage other]) usage
  | stays {steps : List Step} {usage : String} {s : Step} :
    Reaches r steps usage → (∀ references, s ≠ .collect usage references) →
      Reaches r (steps ++ [s]) usage

theorem not_reaches_nil : ¬Reaches r [] usage := by
  generalize hnil : [] = steps
  rintro (_ | _ | _ | _) <;> simp at hnil

/-- How the last step can have let a reference reach a usage. -/
theorem reaches_concat_iff :
    Reaches r (steps ++ [s]) usage ↔
      s = .record usage r.1 r.2 ∨ (∃ references, s = .collect usage references ∧ r ∈ references) ∨
        (∃ other, s = .merge usage other ∧ Reaches r steps other) ∨
        (Reaches r steps usage ∧ ∀ references, s ≠ .collect usage references) := by
  constructor
  -- The last step of any way to the usage is the one that has been added.
  · generalize hall : steps ++ [s] = all
    intro h
    cases h with
    | record =>
      obtain ⟨rfl, hs⟩ := List.append_inj' hall rfl
      exact .inl (List.singleton_inj.1 hs)
    | collect hmem =>
      obtain ⟨rfl, hs⟩ := List.append_inj' hall rfl
      exact .inr (.inl ⟨_, List.singleton_inj.1 hs, hmem⟩)
    | merge hother =>
      obtain ⟨rfl, hs⟩ := List.append_inj' hall rfl
      exact .inr (.inr (.inl ⟨_, List.singleton_inj.1 hs, hother⟩))
    | stays hstays hne =>
      obtain ⟨rfl, hs⟩ := List.append_inj' hall rfl
      obtain rfl := List.singleton_inj.1 hs
      exact .inr (.inr (.inr ⟨hstays, hne⟩))
  · rintro (rfl | ⟨references, rfl, hmem⟩ | ⟨other, rfl, hother⟩ | ⟨hstays, hne⟩)
    · exact .record
    · exact .collect hmem
    · exact .merge hother
    · exact .stays hstays hne

theorem reaches_record_iff {name : String} {a : Access} :
    Reaches r (steps ++ [.record usage name a]) usage ↔ Reaches r steps usage ∨ r = (name, a) := by
  rw [reaches_concat_iff, Prod.ext_iff]
  simp [or_comm, eq_comm]

theorem reaches_merge_iff :
    Reaches r (steps ++ [.merge usage other]) usage ↔
      Reaches r steps usage ∨ Reaches r steps other := by
  rw [reaches_concat_iff]
  simp [or_comm]

theorem reaches_collect_iff {references : List (String × Access)} :
    Reaches r (steps ++ [.collect usage references]) usage ↔ r ∈ references := by
  rw [reaches_concat_iff]
  simp

theorem reaches_concat_iff_of_ne (h : s.target? ≠ some usage) :
    Reaches r (steps ++ [s]) usage ↔ Reaches r steps usage := by
  rw [reaches_concat_iff]
  cases s <;> simp_all [Step.target?]

/-- A usage is the join of the references that have reached it. -/
theorem joins_reaching (steps : List Step) (usage : String) :
    ((run {} steps).usage usage).Joins {r | Reaches r steps usage} := by
  -- By induction on the last step, for all usages, since a merge asks for another one.
  induction steps using List.reverseRecOn generalizing usage with
  | nil =>
    have hempty : (({} : UsageLedger).usage usage).Joins ∅ := by
      rw [usage_empty]
      exact GlobalUsage.joins_empty
    exact hempty.congr fun r => (iff_false_intro not_reaches_nil).symm
  | append_singleton steps s ih =>
    rw [run_concat]
    by_cases htarget : s.target? = some usage
    · rcases usage_step_of_target (run {} steps) htarget with
        ⟨name, a, rfl, hstep⟩ | ⟨other, rfl, hstep⟩ | ⟨references, rfl, hstep⟩
      · rw [hstep]
        exact ((ih usage).record name a).congr fun r => reaches_record_iff.symm
      · rw [hstep]
        exact ((ih usage).merge (ih other)).congr fun r => reaches_merge_iff.symm
      · rw [hstep]
        exact (GlobalUsage.joins_ofList references).congr fun r => reaches_collect_iff.symm
    · rw [usage_step_of_ne htarget]
      exact (ih usage).congr fun r => (reaches_concat_iff_of_ne htarget).symm

/-! ## What comes together -/

/-- The steps only add to a usage: they do not collect it anew, and they leave alone every other
usage that they merge into it. -/
structure AddsTo (usage : String) (steps : List Step) : Prop where
  not_collected : ∀ references, Step.collect usage references ∉ steps
  merged_fixed : ∀ other, Step.merge usage other ∈ steps →
    other = usage ∨ ∀ s ∈ steps, s.target? ≠ some other

/-- What a usage holds after steps that only add to it: what it held before, what they record, and
what the usages hold that they merge in. -/
def brought (l : UsageLedger) (usage : String) (steps : List Step) : Set (String × Access) :=
  {r | r ∈ (l.usage usage).toList ∨ .record usage r.1 r.2 ∈ steps ∨
    ∃ other, .merge usage other ∈ steps ∧ r ∈ (l.usage other).toList}

theorem AddsTo.of_concat (h : AddsTo usage (steps ++ [s])) : AddsTo usage steps where
  not_collected references hmem := h.not_collected references (List.mem_append_left _ hmem)
  merged_fixed other hmem :=
    (h.merged_fixed other (List.mem_append_left _ hmem)).imp_right fun hfixed t ht =>
      hfixed t (List.mem_append_left _ ht)

theorem mem_brought_concat_iff :
    r ∈ brought l usage (steps ++ [s]) ↔ r ∈ brought l usage steps ∨ s = .record usage r.1 r.2 ∨
      ∃ other, s = .merge usage other ∧ r ∈ (l.usage other).toList := by
  simp only [brought, Set.mem_ofPred_eq, List.mem_append, List.mem_singleton, or_and_right,
    exists_or, eq_comm (b := s)]
  rw [or_or_or_comm, ← or_assoc]

/-- What a usage held before is there already when the usage is merged into itself. -/
theorem mem_brought_merge_self_iff :
    r ∈ brought l usage (steps ++ [.merge usage usage]) ↔ r ∈ brought l usage steps := by
  rw [mem_brought_concat_iff]
  refine ⟨?_, .inl⟩
  rintro (hr | hr | ⟨other, hother, hr⟩)
  · exact hr
  · exact nomatch hr
  · obtain ⟨-, rfl⟩ := Step.merge.inj hother
    exact .inl hr

theorem mem_brought_concat_iff_of_ne (h : s.target? ≠ some usage) :
    r ∈ brought l usage (steps ++ [s]) ↔ r ∈ brought l usage steps := by
  rw [mem_brought_concat_iff]
  refine ⟨?_, .inl⟩
  rintro (hr | rfl | ⟨other, rfl, -⟩)
  · exact hr
  · exact absurd rfl h
  · exact absurd rfl h

/-- After steps that only add to it, a usage is the join of what they bring to it. -/
theorem joins_brought (l : UsageLedger) (h : AddsTo usage steps) :
    ((l.run steps).usage usage).Joins (brought l usage steps) := by
  -- By induction from the back: the last step adds to what all the steps before it brought.
  induction steps using List.reverseRecOn with
  | nil => exact (l.usage usage).joins_toList.congr fun r => by simp [brought]
  | append_singleton steps s ih =>
    have hjoins := ih h.of_concat
    rw [run_concat]
    by_cases htarget : s.target? = some usage
    · rcases usage_step_of_target (l.run steps) htarget with
        ⟨name, a, rfl, hstep⟩ | ⟨other, rfl, hstep⟩ | ⟨references, rfl, -⟩
      · rw [hstep]
        refine (hjoins.record name a).congr fun r => ?_
        rw [mem_brought_concat_iff]
        simp [Prod.ext_iff, eq_comm, or_comm]
      · rw [hstep]
        rcases h.merged_fixed other List.mem_concat_self with rfl | hfixed
        -- A usage merged with itself stays as it is, and its own accesses are counted again.
        · refine (hjoins.merge hjoins).congr fun r => ?_
          rw [mem_brought_merge_self_iff, Set.union_self]
        · -- No step before this one has altered the usage that is merged in.
          have hother : (l.run steps).usage other = l.usage other :=
            usage_run_of_ne fun s hs => hfixed s (List.mem_append_left _ hs)
          rw [hother]
          refine (hjoins.merge (l.usage other).joins_toList).congr fun r => ?_
          rw [mem_brought_concat_iff]
          simp
      · exact absurd List.mem_concat_self (h.not_collected references)
    · rw [usage_step_of_ne htarget]
      exact hjoins.congr fun r => (mem_brought_concat_iff_of_ne htarget).symm

/-- What is brought to a usage depends on which steps are taken, not on their order or on how often
they are. -/
theorem brought_congr {others : List Step}
    (h : ∀ s, s.target? = some usage → (s ∈ steps ↔ s ∈ others)) :
    brought l usage steps = brought l usage others := by
  ext r
  exact or_congr_right (or_congr (h _ rfl) (exists_congr fun other => and_congr_left' (h _ rfl)))

/-- After any steps from the empty ledger, a usage has for each name the strongest access among the
references that have reached it, and it lists its names in strictly ascending order of their bytes.
From any ledger, what a usage holds after steps that only add to it depends on which these are, and
not on their order or on how often they are taken. Merging is commutative, associative and
idempotent. -/
theorem run_joins :
    (∀ steps usage, let u := (run {} steps).usage usage
      u.Joins {r | Reaches r steps usage} ∧
        (∀ name a, (name, a) ∈ u.toList ↔ u.get? name = some a) ∧
        u.toList.Pairwise fun r s => Text.bytes r.1 < Text.bytes s.1) ∧
      (∀ (l : UsageLedger) usage steps others, AddsTo usage steps → AddsTo usage others →
        (∀ s, s.target? = some usage → (s ∈ steps ↔ s ∈ others)) →
        ((l.run steps).usage usage).toList = ((l.run others).usage usage).toList) ∧
      ∀ u v w : GlobalUsage, (u.merge v).toList = (v.merge u).toList ∧
        ((u.merge v).merge w).toList = (u.merge (v.merge w)).toList ∧
        (u.merge u).toList = u.toList := by
  refine ⟨fun steps usage => ⟨joins_reaching steps usage, fun _ _ => GlobalUsage.mem_toList,
    GlobalUsage.ascending_toList _⟩, fun l usage steps others hsteps hothers hsame => ?_,
    fun u v w => ⟨u.toList_merge_comm v, u.toList_merge_assoc v w, u.toList_merge_self⟩⟩
  have hjoins := joins_brought l hsteps
  rw [brought_congr hsame] at hjoins
  exact hjoins.toList_eq (joins_brought l hothers)

/-- A merge before or after a record, once or twice, comes to the same. -/
theorem run_joins_reordered :
    let l : UsageLedger := run {} [.record "b" "fetch" .readWrite]
    let steps : List Step := [.record "a" "fetch" .read, .merge "a" "b"]
    let others : List Step :=
      [.merge "a" "b", .record "a" "fetch" .read, .get "b" "fetch", .merge "a" "b"]
    AddsTo "a" steps ∧ AddsTo "a" others ∧
      (∀ s, s.target? = some "a" → (s ∈ steps ↔ s ∈ others)) ∧
      ((l.run steps).usage "a").toList = ((l.run others).usage "a").toList := by
  intro l steps others
  have hsteps : AddsTo "a" steps := ⟨by simp [steps], by simp [steps, Step.target?]⟩
  have hothers : AddsTo "a" others := ⟨by simp [others], by simp [others, Step.target?]⟩
  have hsame : ∀ s, s.target? = some "a" → (s ∈ steps ↔ s ∈ others) := by
    intro s hs
    cases s <;> simp_all [steps, others, Step.target?]
  exact ⟨hsteps, hothers, hsame, run_joins.2.1 l "a" steps others hsteps hothers hsame⟩

end DepTriage.UsageLedger
