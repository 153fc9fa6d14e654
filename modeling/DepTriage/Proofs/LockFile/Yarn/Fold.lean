import DepTriage.Proofs.LockFile.Yarn
import DepTriage.Proofs.Dependency

/-!
# Reading yarn.lock from any line on

An entry is finished only where the next key or the end of the text is reached, so that reading
carries an entry from line to line. Nevertheless entries are read as if each stood alone: where a
key follows, reading goes on as if it started anew.

Lines are numbered for the sake of faults only. The pass is therefore compared with one in which all
lines have the number zero, and which is a plain fold over the lines.

## Key results

- `mapError_unplaced_read`: reading is that fold, but for the lines in which faults are
- `readOnto_append_cons`, `readOnto_append_field`: lines that can be left out
- `readOnto_matches`: what has been read before changes neither success nor what is added
- `readOnto_append_eq_ok_iff`: where a key follows, the entry being read is finished for good
-/

namespace DepTriage.Yarn

open DepTriage.Text

/-! ## Reading without line numbers -/

/-- A fault without its line. -/
def Fault.unplaced : Fault → Fault
  | expectedKey _ found => expectedKey 0 found
  | beforeFirstEntry _ => beforeFirstEntry 0
  | noVersion _ key => noVersion 0 key

def Entry.unplaced (e : Entry) : Entry :=
  { e with line := 0 }

def Progress.unplaced (p : Progress) : Progress :=
  { p with entry := p.entry.map Entry.unplaced }

/-- Reads lines as if all of them had the number zero. -/
def Progress.run (p : Progress) (lines : List Line) : Except Fault Progress :=
  lines.foldlM (fun p line => p.step line 0) p

/-- Adds the dependencies of lines to a set, as if all lines had the number zero. -/
def readOnto (base : DependencySet) (lines : List Line) : Except Fault DependencySet := do
  let p ← Progress.run ⟨base, none⟩ lines
  p.finish

/-- An entry that is not passed over adds its version, which it may not lack. -/
theorem Entry.addTo_eq_of_not_isPassedOver {e : Entry} (h : ¬e.IsPassedOver)
    (set : DependencySet) :
    e.addTo set =
      match e.version with
      | none => .error (.noVersion e.line e.key)
      | some version =>
        .ok (set.insert
          ⟨String.ofList (packageName (firstSpecifier e.key)), String.ofList version⟩) :=
  if_neg h

theorem Entry.addTo_unplaced (e : Entry) (set : DependencySet) :
    e.unplaced.addTo set = (e.addTo set).mapError Fault.unplaced := by
  by_cases h : e.IsPassedOver
  · have hunplaced : e.unplaced.IsPassedOver := h
    rw [addTo_of_isPassedOver hunplaced, addTo_of_isPassedOver h]
    rfl
  · have hunplaced : ¬e.unplaced.IsPassedOver := h
    rw [addTo_eq_of_not_isPassedOver hunplaced, addTo_eq_of_not_isPassedOver h]
    simp only [unplaced]
    cases e.version <;> rfl

theorem Progress.finish_unplaced (p : Progress) :
    p.unplaced.finish = p.finish.mapError Fault.unplaced := by
  obtain ⟨set, entry⟩ := p
  cases entry with
  | none => rfl
  | some e => exact e.addTo_unplaced set

theorem Progress.step_unplaced (p : Progress) (line : Line) (number : Nat) :
    p.unplaced.step line 0 =
      ((p.step line number).map Progress.unplaced).mapError Fault.unplaced := by
  -- A fault arises at a stray line, or where a key finishes the entry before it.
  cases line with
  | noise => rfl
  | stray text => rfl
  | key entryKey =>
    simp only [step, finish_unplaced]
    cases p.finish <;> rfl
  | field version =>
    obtain ⟨set, entry⟩ := p
    cases entry <;> rfl

theorem Progress.run_unplaced (p : Progress) (lines : List Line) (number : Nat) :
    p.unplaced.run lines =
      ((p.steps lines number).map Progress.unplaced).mapError Fault.unplaced := by
  induction lines generalizing p number with
  | nil => rfl
  | cons line lines ih =>
    rw [run, List.foldlM_cons, step_unplaced p line number, steps]
    cases p.step line number with
    | error fault => rfl
    | ok q => exact ih q (number + 1)

/-- Reading a lock file is a fold over its lines, but for the lines in which faults are. -/
theorem mapError_unplaced_read (content : List Char) :
    (read content).mapError Fault.unplaced = readOnto {} ((lines content).map Line.ofText) := by
  have hrun := Progress.run_unplaced {} ((lines content).map Line.ofText) 1
  rw [read, readOnto, show Progress.run ⟨{}, none⟩ _ = _ from hrun]
  cases Progress.steps {} ((lines content).map Line.ofText) 1 with
  | error fault => rfl
  | ok p => exact p.finish_unplaced.symm

/-! ## Lines that say nothing -/

theorem Progress.run_append (p : Progress) (before after : List Line) :
    p.run (before ++ after) = p.run before >>= fun q => q.run after :=
  List.foldlM_append

/-- A line can be left out if it changes nothing at the place that it stands in. -/
theorem readOnto_append_cons {base : DependencySet} {before : List Line} {line : Line}
    (h : ∀ q, Progress.run ⟨base, none⟩ before = .ok q → q.step line 0 = .ok q)
    (after : List Line) :
    readOnto base (before ++ line :: after) = readOnto base (before ++ after) := by
  rw [readOnto, readOnto, Progress.run_append, Progress.run_append]
  -- The line matters only if everything before it was read.
  cases hbefore : Progress.run ⟨base, none⟩ before with
  | error fault => rfl
  | ok q =>
    have hline : q.run (line :: after) = q.step line 0 >>= fun q => q.run after :=
      List.foldlM_cons
    rw [h q hbefore] at hline
    show q.run (line :: after) >>= Progress.finish = q.run after >>= Progress.finish
    rw [hline]
    rfl

theorem readOnto_append_noise (base : DependencySet) (before : List Line) {rest : List Line}
    (h : ∀ line ∈ rest, line = .noise) :
    readOnto base (before ++ rest) = readOnto base before := by
  induction rest with
  | nil => rw [List.append_nil]
  | cons line rest ih =>
    obtain ⟨rfl, hrest⟩ := List.forall_mem_cons.1 h
    rw [readOnto_append_cons (fun _ _ => rfl)]
    exact ih hrest

/-- Once a key has been read, there is an entry that fields belong to. -/
theorem Progress.isSome_entry_of_run {p q : Progress} {lines : List Line}
    (hkey : p.entry.isSome ∨ ∃ entryKey, .key entryKey ∈ lines) (h : p.run lines = .ok q) :
    q.entry.isSome := by
  induction lines generalizing p with
  | nil =>
    obtain rfl := Except.ok.inj h
    simpa using hkey
  | cons line lines ih =>
    rw [run, List.foldlM_cons] at h
    cases hstep : p.step line 0 with
    | error fault =>
      rw [hstep] at h
      injection h
    | ok r =>
      rw [hstep] at h
      refine ih ?_ h
      -- The entry stays, or the line is the key that is looked for, or this stands behind it.
      obtain ⟨rfl, rfl⟩ | ⟨entryKey, set, rfl, -, rfl⟩ | ⟨version, e, rfl, -, rfl⟩ :=
        step_cases hstep
      · simpa using hkey
      · exact Or.inl rfl
      · exact Or.inl rfl

/-- A field without a version can be left out behind a key. -/
theorem readOnto_append_field {before : List Line} (h : ∃ entryKey, .key entryKey ∈ before)
    (base : DependencySet) (after : List Line) :
    readOnto base (before ++ .field none :: after) = readOnto base (before ++ after) := by
  refine readOnto_append_cons (fun q hq => ?_) after
  obtain ⟨e, he⟩ := Option.isSome_iff_exists.1 (Progress.isSome_entry_of_run (Or.inr h) hq)
  obtain ⟨set, entry⟩ := q
  obtain rfl : entry = some e := he
  simp only [Progress.step, Option.or_none]

/-! ## What has been read before -/

/-- Two results that are the same fault, or values that are related. -/
inductive Matches {α β : Type} (R : α → β → Prop) : Except Fault α → Except Fault β → Prop
  | ok {a : α} {b : β} (h : R a b) : Matches R (.ok a) (.ok b)
  | error (fault : Fault) : Matches R (.error fault) (.error fault)

theorem Matches.bind {α β γ δ : Type} {R : α → β → Prop} {S : γ → δ → Prop}
    {x : Except Fault α} {y : Except Fault β} {f : α → Except Fault γ} {g : β → Except Fault δ}
    (h : Matches R x y) (hnext : ∀ a b, R a b → Matches S (f a) (g b)) :
    Matches S (x >>= f) (y >>= g) := by
  cases h with
  | ok h => exact hnext _ _ h
  | error fault => exact .error fault

/-- A set that has the members of another one, and those of `base` besides. -/
def AddsTo (base s t : DependencySet) : Prop :=
  ∀ k, k ∈ s ↔ k ∈ base ∨ k ∈ t

/-- Two stages of reading that differ in what was there before. -/
structure Progress.Extends (base : DependencySet) (p q : Progress) : Prop where
  entry : p.entry = q.entry
  set : AddsTo base p.set q.set

variable {base s t : DependencySet} {p q : Progress}

theorem Entry.addTo_matches (e : Entry) (h : AddsTo base s t) :
    Matches (AddsTo base) (e.addTo s) (e.addTo t) := by
  -- A passed over entry adds nothing on either side, and every other one adds the same key.
  by_cases hskip : e.IsPassedOver
  · rw [addTo_of_isPassedOver hskip, addTo_of_isPassedOver hskip]
    exact .ok h
  · rw [addTo_eq_of_not_isPassedOver hskip, addTo_eq_of_not_isPassedOver hskip]
    cases e.version with
    | none => exact .error _
    | some version =>
      refine .ok fun k => ?_
      rw [DependencySet.mem_insert, DependencySet.mem_insert, h k, or_left_comm]

theorem Progress.Extends.finish (h : p.Extends base q) :
    Matches (AddsTo base) p.finish q.finish := by
  rw [Progress.finish, Progress.finish, h.entry]
  cases q.entry with
  | none => exact .ok h.set
  | some e => exact e.addTo_matches h.set

/-- A step does not depend on what was there before. -/
theorem Progress.Extends.step (h : p.Extends base q) (line : Line) :
    Matches (Progress.Extends base) (p.step line 0) (q.step line 0) := by
  cases line with
  | noise => exact .ok h
  | stray text => exact .error _
  | key entryKey =>
    rw [Progress.step, Progress.step]
    -- A key completes the entry before it, and that may end both readings in the same fault.
    have hfinish := h.finish
    generalize p.finish = x, q.finish = y at hfinish
    cases hfinish with
    | ok hset => exact .ok ⟨rfl, hset⟩
    | error fault => exact .error fault
  | field version =>
    rw [Progress.step, Progress.step, h.entry]
    cases q.entry with
    | none => exact .error _
    | some e => exact .ok ⟨rfl, h.set⟩

theorem Progress.Extends.run (h : p.Extends base q) (lines : List Line) :
    Matches (Progress.Extends base) (p.run lines) (q.run lines) := by
  induction lines generalizing p q with
  | nil => exact .ok h
  | cons line lines ih =>
    rw [Progress.run, Progress.run, List.foldlM_cons, List.foldlM_cons]
    exact (h.step line).bind fun _ _ hstep => ih hstep

/-- What was there before changes neither success nor what is added. -/
theorem readOnto_matches (base : DependencySet) (lines : List Line) :
    Matches (AddsTo base) (readOnto base lines) (readOnto {} lines) := by
  have hbegin : Progress.Extends base ⟨base, none⟩ ⟨{}, none⟩ :=
    ⟨rfl, fun k => by simp [DependencySet.not_mem_empty]⟩
  exact (hbegin.run lines).bind fun _ _ h => h.finish

/-! ## Cutting in front of a key -/

/-- The first line that says something, if there is one, is no field. -/
def StartsAtKey (lines : List Line) : Prop :=
  ∀ version, lines.find? (· ≠ .noise) ≠ some (.field version)

theorem StartsAtKey.of_noise {lines : List Line} (h : StartsAtKey (.noise :: lines)) :
    StartsAtKey lines := by
  intro version hfind
  exact h version (by simpa using hfind)

/-- Where no field follows first, the entry being read is finished for good: reading goes on as if
it started anew. -/
theorem finish_run_eq_ok_iff {lines : List Line} (h : StartsAtKey lines) :
    p.run lines >>= Progress.finish = .ok s ↔
      ∃ base, p.finish = .ok base ∧ readOnto base lines = .ok s := by
  induction lines with
  | nil =>
    show p.finish = .ok s ↔ ∃ base, p.finish = .ok base ∧ Except.ok base = Except.ok s
    simp
  | cons line lines ih =>
    cases line with
    | noise => exact ih h.of_noise
    | stray text =>
      -- Neither goes on behind such a line, whether the entry is complete or not.
      constructor
      · intro hread
        injection hread
      · rintro ⟨base, -, hread⟩
        injection hread
    | key entryKey =>
      rw [Progress.run, List.foldlM_cons, Progress.step]
      cases p.finish with
      | error fault =>
        constructor
        · intro hread
          injection hread
        · rintro ⟨base, hbase, -⟩
          injection hbase
      | ok set =>
        constructor
        · intro hread
          exact ⟨set, rfl, hread⟩
        · rintro ⟨base, hbase, hread⟩
          obtain rfl := Except.ok.inj hbase
          exact hread
    | field version => exact absurd rfl (h version)

theorem readOnto_append_eq_ok_iff {before after : List Line} (h : StartsAtKey after) :
    readOnto base (before ++ after) = .ok s ↔
      ∃ middle, readOnto base before = .ok middle ∧ readOnto middle after = .ok s := by
  rw [readOnto, readOnto, Progress.run_append]
  -- A fault in the first part is a fault of the whole.
  cases Progress.run ⟨base, none⟩ before with
  | error fault =>
    constructor
    · intro hread
      injection hread
    · rintro ⟨middle, hmiddle, -⟩
      injection hmiddle
  | ok q => exact finish_run_eq_ok_iff h

end DepTriage.Yarn
