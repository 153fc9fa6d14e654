import DepTriage.LockFile.Revisions
import DepTriage.Proofs.Scan.Calls

/-!
# Reading the revisions of lock files

To read lock files is to read texts one after the other, up to the first one that cannot be read,
and then to put the texts together.

## Key results

- `readLockFiles_eq`: the texts that are read, and what is made of them
- `exists_answered_or_fails`: either all reads are answered, or one of them is the first that fails
- `Answered.readLockFiles_logged`, `Answered.readLockFiles_logged_of_error`: what comes of the lock
  files, and what is logged until then
-/

namespace DepTriage

namespace LockFilePlace

/-- The texts that are read for a lock file. -/
def reads (place : LockFilePlace) : List (Side × String) :=
  (.head, place.path) :: place.basePath.toList.map (.base, ·)

/-- The change of a lock file, if files have these contents. -/
def change (content : Side → (path : String) → String) (place : LockFilePlace) : LockFileChange :=
  ⟨place.path, place.format, place.basePath.map (content .base), content .head place.path⟩

end LockFilePlace

/-- The changes of lock files with the texts that were read for them, in the order of the
reading. -/
def changesWith : List LockFilePlace → (texts : List String) → List LockFileChange
  | [], _ | _, [] => []
  | place :: places, new :: texts =>
    match place.basePath with
    | none => ⟨place.path, place.format, none, new⟩ :: changesWith places texts
    | some _ => ⟨place.path, place.format, texts.head?, new⟩ :: changesWith places texts.tail

theorem changesWith_map (content : Side → String → String) (places : List LockFilePlace) :
    changesWith places
        ((places.flatMap LockFilePlace.reads).map fun read => content read.1 read.2) =
      places.map (LockFilePlace.change content) := by
  induction places with
  | nil => rfl
  | cons place places ih =>
    rw [List.flatMap_cons, List.map_append, LockFilePlace.reads, List.map_cons, List.map_cons,
      LockFilePlace.change, ← ih]
    cases hbase : place.basePath <;> simp [changesWith, hbase]

section Reading

variable {m : Type → Type} [Monad m] {ε : Type} {read : Side → String → m (Except ε String)}

/-- Reads texts one after the other, up to the first that cannot be read. -/
def readAll (read : Side → String → m (Except ε String)) :
    List (Side × String) → m (Except ε (List String))
  | [] => return .ok []
  | (side, path) :: reads => do
    match ← read side path with
    | .error e => return .error e
    | .ok text => return (← readAll read reads).map (text :: ·)

theorem readLockFiles_eq [LawfulMonad m] (places : List LockFilePlace) :
    readLockFiles read places = do
      return (← readAll read (places.flatMap LockFilePlace.reads)).map (changesWith places) := by
  induction places with
  | nil => simp [readLockFiles, readAll, changesWith, Except.map]
  | cons place places ih =>
    rw [readLockFiles, readRevisions, ih, List.flatMap_cons, LockFilePlace.reads, List.cons_append,
      readAll]
    -- Both sides begin with the same read; what follows is compared answer by answer.
    simp only [bind_assoc]
    congr 1
    funext new
    cases new with
    | error e => simp [Except.map]
    | ok new =>
      cases hbase : place.basePath with
      | none =>
        simp only [pure_bind, Option.toList_none, List.map_nil, List.nil_append, bind_assoc]
        congr 1
        funext texts
        cases texts <;> simp [Except.map, changesWith, hbase]
      | some path =>
        simp only [Option.toList_some, List.map_cons, List.map_nil, List.cons_append,
          List.nil_append, readAll, bind_assoc]
        congr 1
        funext old
        cases old with
        | error e => simp [Except.map]
        | ok old =>
          simp only [pure_bind, bind_assoc]
          congr 1
          funext texts
          cases texts <;> simp [Except.map, changesWith, hbase]

end Reading

/-! ## Reading with a log -/

section Answers

variable {σ κ ε : Type} {read : Side → String → StateM σ (Except ε String)}
  {reads before after : List (Side × String)} {texts : List String} {s s₁ s₂ : σ}

/-- The reads are answered with texts one after the other, beginning in the first state and ending
in the last. -/
inductive Answered (read : Side → String → StateM σ (Except ε String)) :
    List (Side × String) → σ → List String → σ → Prop
  | nil (s : σ) : Answered read [] s [] s
  | cons {side : Side} {path text : String} {reads : List (Side × String)} {texts : List String}
      {s s₁ s₂ : σ} (first : read side path s = (.ok text, s₁))
      (rest : Answered read reads s₁ texts s₂) :
      Answered read ((side, path) :: reads) s (text :: texts) s₂

/-- Either all reads are answered, or there is a first one that fails. -/
theorem exists_answered_or_fails (read : Side → String → StateM σ (Except ε String))
    (reads : List (Side × String)) (s : σ) :
    (∃ texts s₁, Answered read reads s texts s₁) ∨
    ∃ before side path after texts s₁ e s₂, reads = before ++ (side, path) :: after ∧
      Answered read before s texts s₁ ∧ read side path s₁ = (.error e, s₂) := by
  induction reads generalizing s with
  | nil => exact Or.inl ⟨[], s, .nil s⟩
  | cons first reads ih =>
    obtain ⟨side, path⟩ := first
    -- If the first read is answered, those behind it decide.
    cases hanswer : read side path s with | mk answer s₁ =>
    cases answer with
    | error e => exact Or.inr ⟨[], side, path, reads, [], s, e, s₁, rfl, .nil s, hanswer⟩
    | ok text =>
      rcases ih s₁ with
        ⟨texts, s₂, h⟩ | ⟨before, failed, place, after, texts, s₂, e, s₃, rfl, h, he⟩
      · exact Or.inl ⟨text :: texts, s₂, .cons hanswer h⟩
      · exact Or.inr ⟨(side, path) :: before, failed, place, after, text :: texts, s₂, e, s₃, rfl,
          .cons hanswer h, he⟩

/-- If the contents are there for all reads, the reads are answered with them. -/
theorem exists_answered {content : Side → String → String}
    (h : ∀ place ∈ reads, ∀ s, (read place.1 place.2 s).1 = .ok (content place.1 place.2)) (s : σ) :
    ∃ s₁, Answered read reads s (reads.map fun place => content place.1 place.2) s₁ := by
  induction reads generalizing s with
  | nil => exact ⟨s, .nil s⟩
  | cons first reads ih =>
    obtain ⟨hfirst, hreads⟩ := List.forall_mem_cons.1 h
    obtain ⟨s₁, hrest⟩ := ih hreads (read first.1 first.2 s).2
    exact ⟨s₁, .cons (Prod.ext (hfirst s) rfl) hrest⟩

variable {logged : Side → String → StateT (List κ) (StateM σ) (Except ε String)}
  {call : Side × String → κ}

/-- The texts that have been read stand before those that are read after them, in the answer and in
the log. -/
theorem Answered.readAll_append (h : Answered read before s texts s₁)
    (hlogs : ∀ side path, Logs (logged side path) (read side path) fun _ => [call (side, path)])
    (rest : List (Side × String)) (log : List κ) :
    readAll logged (before ++ rest) log s =
      let run := readAll logged rest (log ++ before.map call) s₁
      ((run.1.1.map (texts ++ ·), run.1.2), run.2) := by
  -- The induction is on the answered reads; each of them adds one call to the log.
  induction h generalizing log with
  | nil s =>
    rw [List.nil_append, List.map_nil, List.append_nil]
    generalize readAll logged rest log s = run
    obtain ⟨⟨answer, log⟩, s⟩ := run
    cases answer <;> rfl
  | @cons side path text reads texts s s₁ s₂ first _ ih =>
    rw [List.cons_append, readAll, (hlogs side path).bind_apply, first]
    show ((((readAll logged (reads ++ rest)) _ s₁).1.1.map _, _), _) = _
    rw [ih, List.append_assoc, List.singleton_append, ← List.map_cons]
    generalize readAll logged rest _ s₂ = run
    obtain ⟨⟨answer, log⟩, s⟩ := run
    cases answer <;> rfl

/-- If all reads are answered, all are logged. -/
theorem Answered.readAll_logged (h : Answered read reads s texts s₁)
    (hlogs : ∀ side path, Logs (logged side path) (read side path) fun _ => [call (side, path)])
    (log : List κ) :
    readAll logged reads log s = ((.ok texts, log ++ reads.map call), s₁) := by
  have hall := h.readAll_append hlogs [] log
  rw [List.append_nil] at hall
  rw [hall]
  show ((Except.ok (texts ++ []), _), _) = _
  rw [List.append_nil]
  rfl

/-- The first read that fails is the last one that is logged. -/
theorem Answered.readAll_logged_of_error {side : Side} {path : String} {e : ε}
    (h : Answered read before s texts s₁) (he : read side path s₁ = (.error e, s₂))
    (hlogs : ∀ side path, Logs (logged side path) (read side path) fun _ => [call (side, path)])
    (log : List κ) :
    readAll logged (before ++ (side, path) :: after) log s =
      ((.error e, log ++ (before ++ [(side, path)]).map call), s₂) := by
  rw [h.readAll_append hlogs, readAll, (hlogs side path).bind_apply, he, List.append_assoc,
    List.map_append]
  rfl

variable {places : List LockFilePlace}

/-- If all reads are answered, the lock files are put together from the texts. -/
theorem Answered.readLockFiles_logged
    (h : Answered read (places.flatMap LockFilePlace.reads) s texts s₁)
    (hlogs : ∀ side path, Logs (logged side path) (read side path) fun _ => [call (side, path)])
    (log : List κ) :
    readLockFiles logged places log s =
      ((.ok (changesWith places texts), log ++ (places.flatMap LockFilePlace.reads).map call),
        s₁) := by
  rw [readLockFiles_eq, logged_bind_apply, h.readAll_logged hlogs]
  rfl

/-- The first read that fails ends the reading of the lock files. -/
theorem Answered.readLockFiles_logged_of_error {side : Side} {path : String} {e : ε}
    (hreads : places.flatMap LockFilePlace.reads = before ++ (side, path) :: after)
    (h : Answered read before s texts s₁) (he : read side path s₁ = (.error e, s₂))
    (hlogs : ∀ side path, Logs (logged side path) (read side path) fun _ => [call (side, path)])
    (log : List κ) :
    readLockFiles logged places log s =
      ((.error e, log ++ (before ++ [(side, path)]).map call), s₂) := by
  rw [readLockFiles_eq, logged_bind_apply, hreads, h.readAll_logged_of_error he hlogs]
  rfl

/-- The log changes nothing about the lock files that are read. -/
theorem exists_readLockFiles_logs
    (hlogs : ∀ side path, ∃ calls, Logs (logged side path) (read side path) calls)
    (places : List LockFilePlace) :
    ∃ calls, Logs (readLockFiles logged places) (readLockFiles read places) calls := by
  -- The calls for one place depend only on what its reads answered.
  have hrevisions : ∀ place, ∃ calls,
      Logs (readRevisions logged place) (readRevisions read place) calls := by
    intro place
    refine Logs.exists_bind (hlogs _ _) fun new => ?_
    cases new with
    | error e => exact ⟨_, .of_pure _⟩
    | ok new =>
      dsimp only
      cases place.basePath with
      | none => exact ⟨_, .of_pure _⟩
      | some path =>
        refine Logs.exists_bind (hlogs _ _) fun old => ?_
        cases old <;> exact ⟨_, .of_pure _⟩
  induction places with
  | nil => exact ⟨_, .of_pure _⟩
  | cons place places ih =>
    refine Logs.exists_bind (hrevisions place) fun change => ?_
    cases change with
    | error e => exact ⟨_, .of_pure _⟩
    | ok change =>
      obtain ⟨calls, hrest⟩ := ih
      exact ⟨calls, hrest.bind_pure _⟩

end Answers

end DepTriage
