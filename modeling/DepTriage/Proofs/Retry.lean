import DepTriage.GitHub.FileText
import DepTriage.Proofs.State
import Mathlib.Order.Bounds.Basic
import Mathlib.Tactic.Ring

/-!
# The attempts of a run

A run ends for one of two reasons: an outcome is final, or the attempts are used up. Here an
operation has any outcomes, one for each attempt, and a log tells what happens in the run.

## Key results

- `runFrom_stateAfter`: from any attempt on, a run ends at the first of the two, whatever state the
  operation reads and changes
- `stateAfter_attempted`: the log of a run holds each attempt with the delay of the retry behind it
- `sum_length_leadUp`: the sum of the delays of a linear backoff
- `run_attempts`: a whole run: its number of attempts, its outcome and its log
-/

namespace DepTriage

namespace RetryPolicy

variable {α : Type}

/-! ## Logs -/

/-- What happens in a run. -/
inductive Event where
  | attempt
  | wait (length : Nat)
deriving DecidableEq, Repr

/-- How long an event makes one wait. -/
def Event.length : Event → Nat
  | attempt => 0
  | wait length => length

/-- An operation with an outcome for each attempt. The first one has the number 1. -/
def attempted (outcomes : Nat → Except ScanError α) :
    StateM (List Event) (Except ScanError α) :=
  fun log => (outcomes (log.count .attempt + 1), log ++ [.attempt])

def waited (length : Nat) : StateM (List Event) Unit :=
  fun log => ((), log ++ [.wait length])

/-- A success, or an error that is not worth another attempt. -/
def IsFinal (outcome : Except ScanError α) : Prop :=
  ∀ e, outcome = .error e → e.isRetryable = false

/-- The wait before a retry, if it has any length. -/
def pause (policy : RetryPolicy) (retry : Nat) : List Event :=
  if policy.delay retry = 0 then [] else [.wait (policy.delay retry)]

/-- What happens before an attempt that follows `made` others: each of them, and behind it the wait
before the retry of its number. -/
def leadUp (policy : RetryPolicy) : (made : Nat) → List Event
  | 0 => []
  | made + 1 => policy.leadUp made ++ .attempt :: policy.pause (made + 1)

theorem count_pause (policy : RetryPolicy) (retry : Nat) :
    (policy.pause retry).count .attempt = 0 := by
  rw [pause]
  split <;> rfl

theorem count_leadUp (policy : RetryPolicy) (made : Nat) :
    (policy.leadUp made).count .attempt = made := by
  induction made with
  | zero => rfl
  | succ made ih =>
    rw [leadUp, List.count_append, List.count_cons_self, ih, count_pause]

theorem sum_length_pause (policy : RetryPolicy) (retry : Nat) :
    ((policy.pause retry).map Event.length).sum = policy.delay retry := by
  rw [pause]
  split
  · next hzero => exact hzero.symm
  · exact List.sum_singleton

/-- The delays of a linear backoff grow by one step each time. -/
theorem sum_length_leadUp {policy : RetryPolicy} {step : Nat} (h : policy.backoff = .linear step)
    (made : Nat) :
    2 * ((policy.leadUp made).map Event.length).sum = step * (made + 1) * made := by
  induction made with
  | zero => rfl
  | succ made ih =>
    have hdelay : policy.delay (made + 1) = step * (made + 1) := by rw [delay, h]
    rw [leadUp, List.map_append, List.sum_append, List.map_cons, List.sum_cons, sum_length_pause,
      hdelay, Event.length, Nat.mul_add, ih]
    ring

theorem delay_mono (policy : RetryPolicy) {first second : Nat} (h : first ≤ second) :
    policy.delay first ≤ policy.delay second := by
  rw [delay, delay]
  cases policy.backoff with
  | immediate => exact Nat.le_refl 0
  | linear step => exact Nat.mul_le_mul_left step h

/-- No wait is longer than the last one. -/
theorem length_le_of_mem_leadUp {policy : RetryPolicy} {made : Nat} {event : Event}
    (h : event ∈ policy.leadUp made) : event.length ≤ policy.delay made := by
  -- By induction on the attempts: the delays grow, so the last one bounds all pauses.
  induction made with
  | zero => exact nomatch h
  | succ made ih =>
    rcases List.mem_append.1 h with hbefore | hnext
    · exact Nat.le_trans (ih hbefore) (policy.delay_mono (Nat.le_succ made))
    · rcases List.mem_cons.1 hnext with rfl | hpause
      · exact Nat.zero_le _
      · rw [pause] at hpause
        split at hpause
        · exact nomatch hpause
        · rw [List.mem_singleton.1 hpause]
          exact Nat.le_refl _

/-! ## Runs -/

section States

variable {σ : Type} (policy : RetryPolicy) (wait : Nat → StateM σ Unit)
  (operation : StateM σ (Except ScanError α)) (s : σ)

/-- The state after the wait before a retry, if it has any length. -/
def paused (retry : Nat) (s : σ) : σ :=
  if policy.delay retry = 0 then s else (wait (policy.delay retry) s).2

/-- The state in which an attempt begins that follows `made` others, in a run that begins in `s`. -/
def stateAfter : (made : Nat) → σ
  | 0 => s
  | made + 1 => policy.paused wait (made + 1) (operation (stateAfter made)).2

/-- An attempt that is not the last one to be made ends the run if its outcome is final, and
otherwise leads up to the next one. -/
theorem runFrom_succ (left made : Nat) :
    (IsFinal (operation (policy.stateAfter wait operation s made)).1 ∧
      policy.runFrom wait operation (left + 1) (made + 1)
          (policy.stateAfter wait operation s made) =
        operation (policy.stateAfter wait operation s made)) ∨
    (¬IsFinal (operation (policy.stateAfter wait operation s made)).1 ∧
      policy.runFrom wait operation (left + 1) (made + 1)
          (policy.stateAfter wait operation s made) =
        policy.runFrom wait operation left (made + 2)
          (policy.stateAfter wait operation s (made + 1))) := by
  rw [runFrom, stateAfter, paused, bind_apply]
  generalize policy.stateAfter wait operation s made = here
  obtain ⟨outcome, next⟩ := operation here
  cases outcome with
  | ok value => exact .inl ⟨nofun, rfl⟩
  | error e =>
    dsimp only
    -- What may be retried is not final, and a wait of zero is left out.
    by_cases hretry : e.isRetryable = true
    · have hnotFinal : ¬IsFinal (.error e : Except ScanError α) := fun hfinal =>
        Bool.eq_false_iff.1 (hfinal e rfl) hretry
      refine .inr ⟨hnotFinal, ?_⟩
      rw [if_pos hretry]
      by_cases hdelay : policy.delay (made + 1) = 0
      · rw [if_neg (not_not.2 hdelay), if_pos hdelay]
      · rw [if_pos hdelay, if_neg hdelay, bind_apply]
    · refine .inl ⟨?_, ?_⟩
      · rintro _ ⟨⟩
        exact Bool.eq_false_iff.2 hretry
      · rw [if_neg hretry]
        rfl

/-- From any attempt on, a run ends at the first final outcome or with the last attempt, whichever
comes first, and with the outcome of that attempt. -/
theorem runFrom_stateAfter (left made : Nat) :
    ∃ last,
      IsLeast {i | i = made + left ∨
        made ≤ i ∧ IsFinal (operation (policy.stateAfter wait operation s i)).1} last ∧
      policy.runFrom wait operation left (made + 1) (policy.stateAfter wait operation s made) =
        operation (policy.stateAfter wait operation s last) := by
  -- By induction on the attempts that are left: the state that leads up to the next one is its own.
  induction left generalizing made with
  | zero =>
    refine ⟨made, ⟨.inl rfl, ?_⟩, rfl⟩
    rintro i (rfl | ⟨hle, -⟩)
    · exact Nat.le_refl _
    · exact hle
  | succ left ih =>
    rcases policy.runFrom_succ wait operation s left made with ⟨hfinal, hrun⟩ | ⟨hfinal, hrun⟩
    · refine ⟨made, ⟨.inr ⟨Nat.le_refl _, hfinal⟩, ?_⟩, hrun⟩
      rintro i (rfl | ⟨hle, -⟩)
      · exact Nat.le_add_right _ _
      · exact hle
    · obtain ⟨last, ⟨hlast, hleast⟩, hrest⟩ := ih (made + 1)
      refine ⟨last, ⟨?_, ?_⟩, hrun.trans hrest⟩
      · rcases hlast with rfl | ⟨hle, hlast⟩
        · exact .inl (by omega)
        · exact .inr ⟨by omega, hlast⟩
      · -- The attempt itself is not final, so that the least one stands behind it.
        rintro i (rfl | ⟨hle, hi⟩)
        · exact hleast (.inl (by omega))
        · have hne : i ≠ made := by
            rintro rfl
            exact hfinal hi
          exact hleast (.inr ⟨by omega, hi⟩)

end States

/-! ## Attempts -/

variable (policy : RetryPolicy) (outcomes : Nat → Except ScanError α)

/-- The attempt with which a run ends: the first one with a final outcome or the last one that may
be made, whichever comes first. One may always be made. -/
def EndsAt (k : Nat) : Prop :=
  IsLeast {i | i = max policy.maxAttempts 1 ∨ 0 < i ∧ IsFinal (outcomes i)} k

/-- The number of attempts stays within that of the policy. -/
theorem EndsAt.le {policy : RetryPolicy} {outcomes : Nat → Except ScanError α} {k : Nat}
    (h : policy.EndsAt outcomes k) : k ≤ max policy.maxAttempts 1 :=
  h.2 (.inl rfl)

theorem EndsAt.pos {policy : RetryPolicy} {outcomes : Nat → Except ScanError α} {k : Nat}
    (h : policy.EndsAt outcomes k) : 0 < k := by
  rcases h.1 with rfl | ⟨hpos, -⟩
  · omega
  · exact hpos

/-- Only the outcomes of attempts matter, and these have the numbers from 1 on. -/
theorem EndsAt.congr {policy : RetryPolicy} {outcomes others : Nat → Except ScanError α} {k : Nat}
    (h : policy.EndsAt outcomes k) (heq : ∀ i, 0 < i → outcomes i = others i) :
    policy.EndsAt others k := by
  have hset : {i | i = max policy.maxAttempts 1 ∨ 0 < i ∧ IsFinal (outcomes i)} =
      {i | i = max policy.maxAttempts 1 ∨ 0 < i ∧ IsFinal (others i)} :=
    Set.ext fun i => or_congr_right (and_congr_right fun hi => by rw [heq i hi])
  unfold EndsAt at h ⊢
  rwa [hset] at h

/-- A run ends in the state of the attempt with which it ends, and has the outcome of that one. -/
theorem exists_run_eq_attempt {σ : Type} (wait : Nat → StateM σ Unit)
    (operation : StateM σ (Except ScanError α)) (s : σ) :
    ∃ k, policy.EndsAt
        (fun i => (operation (policy.stateAfter wait operation s (i - 1))).1) k ∧
      policy.run wait operation s =
        operation (policy.stateAfter wait operation s (k - 1)) := by
  obtain ⟨last, ⟨hlast, hleast⟩, hrun⟩ :=
    -- The recursion counts from zero and the retries that are left; the policy counts from one.
    policy.runFrom_stateAfter wait operation s (max policy.maxAttempts 1 - 1) 0
  refine ⟨last + 1, ⟨?_, ?_⟩, hrun⟩
  · rcases hlast with hlast | ⟨-, hlast⟩
    · exact .inl (by omega)
    · exact .inr ⟨by omega, hlast⟩
  · rintro i (rfl | ⟨hpos, hi⟩)
    · have := hleast (.inl rfl)
      omega
    · have := hleast (.inr ⟨Nat.zero_le (i - 1), hi⟩)
      omega

theorem attempted_leadUp (made : Nat) :
    attempted outcomes (policy.leadUp made) =
      (outcomes (made + 1), policy.leadUp made ++ [.attempt]) := by
  rw [attempted, count_leadUp]

/-- The state of a run with a log is what has led up to the attempt. -/
theorem stateAfter_attempted (made : Nat) :
    policy.stateAfter waited (attempted outcomes) [] made = policy.leadUp made := by
  induction made with
  | zero => rfl
  | succ made ih =>
    rw [stateAfter, ih, attempted_leadUp, paused, leadUp, pause]
    by_cases hdelay : policy.delay (made + 1) = 0
    · rw [if_pos hdelay, if_pos hdelay]
    · rw [if_neg hdelay, if_neg hdelay, waited, List.append_assoc]
      rfl

/-- A run makes its attempts up to the one with which it ends, and has the outcome of that one. -/
theorem exists_run_eq :
    ∃ k, policy.EndsAt outcomes k ∧
      policy.run waited (attempted outcomes) [] =
        (outcomes k, policy.leadUp (k - 1) ++ [.attempt]) := by
  obtain ⟨k, hends, hrun⟩ := policy.exists_run_eq_attempt waited (attempted outcomes) []
  simp only [stateAfter_attempted, attempted_leadUp] at hends hrun
  have hindex : k - 1 + 1 = k := by
    have := hends.pos
    omega
  rw [hindex] at hrun
  exact ⟨k, hends.congr fun i hi => by rw [Nat.sub_add_cancel hi], hrun⟩

/-- Whether a wait can be told by a clock that counts seconds in 64 bits, if so many units make a
second. -/
def FitsClock (perSecond length : Nat) : Prop :=
  length / perSecond < 2 ^ 64

theorem FitsClock.of_le {perSecond long short : Nat} (h : FitsClock perSecond long)
    (hle : short ≤ long) : FitsClock perSecond short :=
  Nat.lt_of_le_of_lt (Nat.div_le_div_right hle) h

/-- A run makes its attempts up to the one with which it ends, and has the outcome of that one.
Behind each attempt but the last it waits for the delay of the retry. If 32 bits can count the
attempts of the policy, they can count those of the run; if a clock can tell the longest delay that
the policy comes to, it can tell each wait. With the policy for contents it can tell the delay of
any retry that 32 bits can count. -/
theorem run_attempts {m : Type → Type} [Monad m] (client : GitHubClient m) :
    (∃ k log, policy.EndsAt outcomes k ∧
      policy.run waited (attempted outcomes) [] = (outcomes k, log) ∧
      log.count .attempt = k ∧ log = policy.leadUp (k - 1) ++ [.attempt] ∧
      (∀ step, policy.backoff = .linear step →
        (log.map Event.length).sum = step * k * (k - 1) / 2) ∧
      (policy.maxAttempts < 2 ^ 32 → k < 2 ^ 32) ∧
      ∀ perSecond, FitsClock perSecond (policy.delay policy.maxAttempts) →
        ∀ event ∈ log, FitsClock perSecond event.length) ∧
    ∀ retry < 2 ^ 32, FitsClock 1000 (client.contentsPolicy.delay retry) := by
  constructor
  · obtain ⟨k, hk, hrun⟩ := policy.exists_run_eq outcomes
    have hbound := hk.le
    have hpos := hk.pos
    refine ⟨k, _, hk, hrun, ?_, rfl, fun step hstep => ?_, fun hmax => by omega, ?_⟩
    · have hone : [Event.attempt].count .attempt = 1 := rfl
      rw [List.count_append, count_leadUp, hone]
      omega
    · have hsum := sum_length_leadUp hstep (k - 1)
      have hindex : k - 1 + 1 = k := by omega
      have hlast : ([Event.attempt].map Event.length).sum = 0 := rfl
      rw [hindex] at hsum
      rw [List.map_append, List.sum_append, hlast]
      omega
    -- The waits grow, so that the longest one bounds them all.
    · intro perSecond hfits event hevent
      rcases List.mem_append.1 hevent with hbefore | hlast
      · have hlength := length_le_of_mem_leadUp hbefore
        exact hfits.of_le (Nat.le_trans hlength (policy.delay_mono (by omega)))
      · rw [List.mem_singleton.1 hlast]
        exact hfits.of_le (Nat.zero_le _)
  · intro retry hretry
    change 200 * retry / 1000 < 2 ^ 64
    omega

/-- Two failures that pass, and then a success. -/
def laterSuccess (i : Nat) : Except ScanError Nat :=
  if i ≤ 2 then .error (.transient "blob" "HTTP 503") else .ok 7

/-- Of five attempts, three are made until the success, with 600 milliseconds between them. -/
theorem run_laterSuccess :
    let policy : RetryPolicy := ⟨5, .linear 200⟩
    let log : List Event := [.attempt, .wait 200, .attempt, .wait 400, .attempt]
    let client : GitHubClient Id := ⟨⟨fun _ => .error "no network", fun _ => ()⟩, {}, none, []⟩
    policy.run waited (attempted laterSuccess) [] = (.ok 7, log) ∧
      policy.EndsAt laterSuccess 3 ∧ (log.map Event.length).sum = 200 * 3 * (3 - 1) / 2 ∧
      policy.maxAttempts < 2 ^ 32 ∧ 3 < 2 ^ 32 ∧
      FitsClock 1000 (policy.delay policy.maxAttempts) ∧
      (∀ event ∈ log, FitsClock 1000 event.length) ∧
      FitsClock 1000 (client.contentsPolicy.delay (2 ^ 32 - 1)) := by
  intro policy log client
  -- Run once in full; the general result says what the run shows.
  have hrun : policy.run waited (attempted laterSuccess) [] = (.ok 7, log) := rfl
  have hmax : policy.maxAttempts < 2 ^ 32 := by decide
  have hfits : FitsClock 1000 (policy.delay policy.maxAttempts) := by
    unfold FitsClock
    decide
  obtain ⟨⟨k, log', hends, hlog, hcount, -, hsum, hcounter, hwaits⟩, hcontents⟩ :=
    run_attempts policy laterSuccess client
  obtain rfl : log = log' := congrArg Prod.snd (hrun.symm.trans hlog)
  obtain rfl : 3 = k := hcount
  exact ⟨hrun, hends, hsum 200 rfl, hmax, hcounter hmax, hfits, hwaits 1000 hfits,
    hcontents (2 ^ 32 - 1) (by decide)⟩

end RetryPolicy

end DepTriage
