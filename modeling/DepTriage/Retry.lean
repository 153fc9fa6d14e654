import DepTriage.ScanError

/-! # Retries

An operation that fails for a passing reason is tried again, up to a number of attempts. Waits are
counted in one unit of time, whichever it is; the clients count milliseconds. -/

namespace DepTriage

/-- The wait before a retry. -/
inductive Backoff where
  | immediate
  /-- Before the n-th retry, n times the step. -/
  | linear (step : Nat)
deriving DecidableEq, Repr, Inhabited

structure RetryPolicy where
  maxAttempts : Nat := 3
  backoff : Backoff := .immediate
deriving DecidableEq, Repr, Inhabited

namespace RetryPolicy

/-- A policy of so many attempts, but of one at least. -/
def ofAttempts (attempts : Nat) : RetryPolicy :=
  { maxAttempts := max attempts 1 }

/-- How long to wait before a retry; the first one has the number 1. -/
def delay (policy : RetryPolicy) (retry : Nat) : Nat :=
  match policy.backoff with
  | .immediate => 0
  | .linear step => step * retry

variable {m : Type → Type} [Monad m] {α : Type}

/-- Makes the attempts from number `attempt` on, of which `left` may follow it. A wait of no length
is left out. -/
def runFrom (policy : RetryPolicy) (wait : Nat → m Unit) (operation : m (Except ScanError α)) :
    (left attempt : Nat) → m (Except ScanError α)
  | 0, _ => operation
  | left + 1, attempt => do
    match ← operation with
    | .ok value => return .ok value
    | .error e =>
      if e.isRetryable then
        if policy.delay attempt ≠ 0 then wait (policy.delay attempt)
        runFrom policy wait operation left (attempt + 1)
      else return .error e

/-- Runs an operation until it succeeds or fails for good, or until its attempts are used up. The
last outcome is the result. -/
def run (policy : RetryPolicy) (wait : Nat → m Unit) (operation : m (Except ScanError α)) :
    m (Except ScanError α) :=
  policy.runFrom wait operation (max policy.maxAttempts 1 - 1) 1

end RetryPolicy

end DepTriage
