/-!
# Computations with a state

A computation and the next one share the state. Where the state is a log, a computation may only
add to it.

## Key results

- `bind_apply`: what is done next finds the answer, and the state as it is then
- `Adds.bind_pure`: what is made of the answer in the end adds nothing
-/

namespace DepTriage

variable {σ κ α β : Type}

/-- A computation and the next one share the state. -/
theorem bind_apply (x : StateM σ α) (f : α → StateM σ β) (s : σ) :
    (x >>= f) s = f (x s).1 (x s).2 := rfl

/-- The computation adds these events at the end of the log, whatever it comes to. -/
def Adds (x : StateM (List κ) α) (events : List κ) : Prop :=
  ∀ log, (x log).2 = log ++ events

namespace Adds

variable {x : StateM (List κ) α} {events : List κ}

/-- What is made of the answer in the end adds no event. -/
theorem bind_pure (f : α → β) (h : Adds x events) : Adds (x >>= fun a => pure (f a)) events :=
  fun log => h log

end Adds

end DepTriage
