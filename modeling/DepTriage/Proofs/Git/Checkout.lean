import DepTriage.Git.Checkout
import DepTriage.Proofs.Git.NameStatus
import DepTriage.Proofs.LockFile.Revisions
import DepTriage.Proofs.Text.Utf8

/-!
# Lock files of a local checkout

The lock files that differ between two revisions of a checkout are those that the listing of `git`
tells of, with the contents that `git` shows.

## Key results

- `Checkout.records_of_prints`: a listing that is printed is read
- `Checkout.lockFiles_of_answered`: the lock files of a listing, and what `git` is asked for them
-/

namespace DepTriage

open Git

/-- A program that logs the arguments of its runs. -/
def Git.Program.logged {m : Type → Type} [Monad m] (git : Program m) :
    Program (StateT (List (List String)) m) :=
  fun directory arguments => loggedCall arguments (git directory arguments)

namespace Checkout

/-- A checkout that logs the arguments of the runs of `git`. -/
def logged {m : Type → Type} [Monad m] (c : Checkout m) :
    Checkout (StateT (List (List String)) m) :=
  ⟨c.git.logged, c.directory⟩

variable {τ : Type} {c : Checkout (StateM τ)} {arguments : List String} {printed : String}
  {base head : String} {t t₁ t₂ : τ}

theorem text_logs (c : Checkout (StateM τ)) (arguments : List String) :
    Logs (c.logged.text arguments) (c.text arguments) fun _ => [arguments] := by
  -- Decoding the output runs no further command.
  refine ((Logs.of_call _ _).bind fun answer => (?_ : Logs _ _ fun _ => [])).congr fun s => rfl
  cases answer with
  | error cause => exact .of_pure _
  | ok output =>
    dsimp only
    split
    · exact .of_pure _
    · cases Text.decode output.standardOutput.toList <;> exact .of_pure _

/-- A run of `git` succeeds and prints a text, beginning in the first state and ending in the
last. -/
def Prints (c : Checkout (StateM τ)) (arguments : List String) (t : τ) (printed : String) (t₁ : τ) :
    Prop :=
  ∃ standardError, c.git c.directory arguments t = (.ok ⟨0, printed.toUTF8, standardError⟩, t₁)

theorem Prints.text_eq (h : c.Prints arguments t printed t₁) :
    c.text arguments t = (.ok printed, t₁) := by
  obtain ⟨standardError, hrun⟩ := h
  rw [Checkout.text, bind_apply, hrun]
  dsimp only
  rw [if_neg (by simp), Text.decode_toUTF8]
  rfl

/-- A listing that is printed is read. -/
theorem records_of_prints {records : List NameStatus} {parts : List (List (List Char))}
    (hwritten : List.Forall₂ NameStatus.Written records parts)
    (h : c.Prints (listingArguments base head) t
      (String.ofList (terminated parts.flatten)) t₁) (log : List (List String)) :
    c.logged.records base head log t =
      ((.ok records, log ++ [listingArguments base head]), t₁) := by
  rw [Checkout.records, (text_logs c _).bind_apply, h.text_eq]
  dsimp only
  rw [NameStatus.read_terminated hwritten]
  rfl

/-- The run of `git` that reads a file at one of the two revisions. -/
def readArguments (base head : String) (place : Side × String) : List String :=
  contentArguments place.2 (place.1.revision base head)

/-- Reads a file at one of the two revisions. -/
def readAt (c : Checkout (StateM τ)) (base head : String) (side : Side) (path : String) :
    StateM τ (Except Fault String) :=
  c.text (readArguments base head (side, path))

/-- The lock files of a listing are read one after the other. -/
theorem lockFiles_of_answered {records : List NameStatus} {log log₁ : List (List String)}
    {texts : List String}
    (hrecords : c.logged.records base head log t = ((.ok records, log₁), t₁))
    (hread : Answered (c.readAt base head)
      ((records.filterMap NameStatus.lockFile?).flatMap LockFilePlace.reads) t₁ texts t₂) :
    c.logged.lockFiles base head log t =
      ((.ok (changesWith (records.filterMap NameStatus.lockFile?) texts),
        log₁ ++ ((records.filterMap NameStatus.lockFile?).flatMap LockFilePlace.reads).map
          (readArguments base head)), t₂) := by
  rw [Checkout.lockFiles, logged_bind_apply, hrecords]
  exact hread.readLockFiles_logged (fun side path => text_logs c _) log₁

/-- The log changes nothing about the lock files of a checkout. -/
theorem exists_lockFiles_logs (c : Checkout (StateM τ)) (base head : String) :
    ∃ calls, Logs (c.logged.lockFiles base head) (c.lockFiles base head) calls := by
  have hrecords : ∃ calls, Logs (c.logged.records base head) (c.records base head) calls := by
    refine Logs.exists_bind ⟨_, text_logs c _⟩ fun listing => ?_
    cases listing <;> exact ⟨_, .of_pure _⟩
  refine Logs.exists_bind hrecords fun records => ?_
  cases records with
  | error e => exact ⟨_, .of_pure _⟩
  | ok records => exact exists_readLockFiles_logs (fun side path => ⟨_, text_logs c _⟩) _

end Checkout

end DepTriage
