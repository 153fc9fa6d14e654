import DepTriage.Text.Split

/-! # Cutting texts at a mark

A cut at a mark undoes the joining of two texts by it, as long as the mark stands in none of the
parts where the cut looks for it first.

## Key results

- `splitFirst?_eq_some_iff`: the first mark has none before it
- `splitLast?_eq_some_iff`: the last mark has none after it
- `mem_beforeFirst_iff`: what stands before the first mark has none in front of it
- `head?_splitAll`: the first field ends at the first mark
- `splitAll_append`: texts that are joined by a mark keep their fields
- `splitAll_flatMap`: fields that each end with a mark are read back
- `splitAll_cons_of_ne`: the fields of a text, character by character
- `dropStart?_eq_some_iff`, `dropEnd?_eq_some_iff`: a start or an end that is cut off
- `exists_map_splitAll_eq`: lines are the fields between line feeds, up to carriage returns
-/

namespace DepTriage.Text

variable {mark : Char} {cs before after : List Char}

theorem splitFirst?_cons (mark c : Char) (cs : List Char) :
    splitFirst? mark (c :: cs) =
      if c = mark then some ([], cs)
      else (splitFirst? mark cs).map fun (before, after) => (c :: before, after) := by
  simp only [splitFirst?, List.dropWhile_cons, List.takeWhile_cons]
  by_cases h : c = mark
  · simp [h]
  · rw [if_pos (by simpa using h), if_pos (by simpa using h), if_neg h]
    cases cs.dropWhile (· != mark) <;> rfl

/-- A text is cut at the first mark: there is none before the cut. -/
theorem splitFirst?_eq_some_iff :
    splitFirst? mark cs = some (before, after) ↔ mark ∉ before ∧ cs = before ++ mark :: after := by
  induction cs generalizing before with
  | nil => simp [splitFirst?]
  | cons c cs ih =>
    rw [splitFirst?_cons]
    by_cases h : c = mark
    · subst h
      rw [if_pos rfl]
      -- At the mark the part before it is empty, for a longer one would hold the mark.
      cases before with
      | nil => simp
      | cons b before => simp +contextual
    · rw [if_neg h]
      cases before with
      | nil => simp [h]
      | cons b before =>
        rw [Option.map_eq_some_iff]
        constructor
        · rintro ⟨⟨first, rest⟩, hsplit, heq⟩
          obtain ⟨hcons, rfl⟩ := Prod.mk.inj heq
          obtain ⟨rfl, rfl⟩ := List.cons.inj hcons
          obtain ⟨hfirst, rfl⟩ := ih.1 hsplit
          simp [hfirst, Ne.symm h]
        · rintro ⟨hmark, heq⟩
          obtain ⟨rfl, rfl⟩ := List.cons.inj heq
          have hbefore : mark ∉ before := fun hmem => hmark (List.mem_cons_of_mem _ hmem)
          exact ⟨(before, after), ih.2 ⟨hbefore, rfl⟩, rfl⟩

/-- A text is cut at the last mark: there is none after the cut. -/
theorem splitLast?_eq_some_iff :
    splitLast? mark cs = some (before, after) ↔ mark ∉ after ∧ cs = before ++ mark :: after := by
  rw [splitLast?, Option.map_eq_some_iff]
  -- The last mark is the first one of the reversed text.
  constructor
  · rintro ⟨⟨first, rest⟩, hsplit, heq⟩
    obtain ⟨rfl, rfl⟩ := Prod.mk.inj heq
    obtain ⟨hfirst, hcs⟩ := splitFirst?_eq_some_iff.1 hsplit
    refine ⟨by simpa using hfirst, ?_⟩
    have hcs := congrArg List.reverse hcs
    simpa using hcs
  · rintro ⟨hafter, rfl⟩
    refine ⟨(after.reverse, before.reverse), splitFirst?_eq_some_iff.2 ?_, by simp⟩
    exact ⟨by simpa using hafter, by simp⟩

theorem exists_eq_append_of_mem (h : mark ∈ cs) :
    ∃ before after, cs = before ++ mark :: after ∧ mark ∉ after := by
  obtain ⟨after, before, hcs, hafter⟩ := List.eq_append_cons_of_mem (List.mem_reverse.2 h)
  refine ⟨before.reverse, after.reverse, ?_, by simpa using hafter⟩
  rw [← List.reverse_reverse cs, hcs]
  simp

/-! ## Before the first mark -/

theorem beforeFirst_append_of_not_mem (h : mark ∉ before) (after : List Char) :
    beforeFirst mark (before ++ after) = before ++ beforeFirst mark after := by
  have hbefore : ∀ c ∈ before, (c != mark) = true :=
    fun c hc => bne_iff_ne.2 fun heq => h (heq ▸ hc)
  rw [beforeFirst, List.takeWhile_append_of_pos hbefore]
  rfl

theorem beforeFirst_cons_self (mark : Char) (after : List Char) :
    beforeFirst mark (mark :: after) = [] := by
  simp [beforeFirst]

theorem beforeFirst_of_not_mem (h : mark ∉ cs) : beforeFirst mark cs = cs := by
  have hall := beforeFirst_append_of_not_mem h []
  rwa [List.append_nil, show beforeFirst mark [] = [] from rfl, List.append_nil] at hall

theorem not_mem_beforeFirst (mark : Char) (cs : List Char) : mark ∉ beforeFirst mark cs := by
  intro h
  have hne := List.all_eq_true.1 List.all_takeWhile mark h
  simp at hne

/-- Behind what stands before the first mark, that mark follows, or nothing does. -/
theorem exists_eq_beforeFirst_append (mark : Char) (cs : List Char) :
    ∃ tail, cs = beforeFirst mark cs ++ tail ∧ (tail = [] ∨ ∃ after, tail = mark :: after) := by
  by_cases hmark : mark ∈ cs
  · obtain ⟨before, after, rfl, hbefore⟩ := List.eq_append_cons_of_mem hmark
    refine ⟨mark :: after, ?_, .inr ⟨after, rfl⟩⟩
    rw [beforeFirst_append_of_not_mem hbefore, beforeFirst_cons_self, List.append_nil]
  · exact ⟨[], by rw [beforeFirst_of_not_mem hmark, List.append_nil], .inl rfl⟩

/-- What stands before the first mark has no mark in front of it. -/
theorem mem_beforeFirst_iff {c : Char} (hc : c ≠ mark) :
    c ∈ beforeFirst mark cs ↔ ∃ before after, cs = before ++ c :: after ∧ mark ∉ before := by
  constructor
  · intro h
    -- The character stands in the first field, so the mark does not come before it.
    obtain ⟨before, after, hsplit⟩ := List.append_of_mem h
    obtain ⟨tail, hcs, -⟩ := exists_eq_beforeFirst_append mark cs
    have hmark := not_mem_beforeFirst mark cs
    rw [hsplit] at hmark
    refine ⟨before, after ++ tail, ?_, fun hmem => hmark (by simp [hmem])⟩
    rw [← List.cons_append, ← List.append_assoc, ← hsplit]
    exact hcs
  · rintro ⟨before, after, rfl, hbefore⟩
    rw [beforeFirst_append_of_not_mem hbefore]
    simp [beforeFirst, hc]

/-! ## Fields -/

private theorem splitOnto_eq_append (mark : Char) (cs field : List Char)
    (fields : List (List Char)) :
    splitOnto mark cs field fields = fields.reverse ++ splitOnto mark cs field [] := by
  -- Finished fields are never looked at again.
  induction cs generalizing field fields with
  | nil => simp [splitOnto]
  | cons c cs ih =>
    rw [splitOnto, splitOnto]
    split
    · rw [ih, ih [] [field.reverse]]
      simp
    · exact ih _ _

private theorem head?_splitOnto (mark : Char) (cs field : List Char) :
    (splitOnto mark cs field []).head? = some (field.reverse ++ beforeFirst mark cs) := by
  induction cs generalizing field with
  | nil => simp [splitOnto, beforeFirst]
  | cons c cs ih =>
    rw [splitOnto, beforeFirst, List.takeWhile_cons]
    -- At the first mark the first field is complete.
    by_cases h : c = mark
    · rw [if_pos h, splitOnto_eq_append]
      simp [h]
    · rw [if_neg h, ih, if_pos (by simpa using h)]
      simp [beforeFirst]

/-- The first field of a text ends at the first mark. -/
theorem head?_splitAll (mark : Char) (cs : List Char) :
    (splitAll mark cs).head? = some (beforeFirst mark cs) :=
  head?_splitOnto mark cs []

private theorem splitOnto_append (mark : Char) (before after field : List Char)
    (fields : List (List Char)) :
    splitOnto mark (before ++ mark :: after) field fields =
      splitOnto mark after [] (splitOnto mark before field fields).reverse := by
  induction before generalizing field fields with
  | nil => simp [splitOnto]
  | cons c before ih =>
    rw [List.cons_append, splitOnto, splitOnto]
    split
    · exact ih _ _
    · exact ih _ _

private theorem splitOnto_of_not_mem (h : mark ∉ cs) (field : List Char) :
    splitOnto mark cs field [] = [field.reverse ++ cs] := by
  induction cs generalizing field with
  | nil => simp [splitOnto]
  | cons c cs ih =>
    have hc : c ≠ mark := fun heq => h (heq ▸ List.mem_cons_self)
    rw [splitOnto, if_neg hc, ih fun hmem => h (List.mem_cons_of_mem _ hmem)]
    simp

/-- Texts that are joined by a mark keep their fields. -/
theorem splitAll_append (mark : Char) (before after : List Char) :
    splitAll mark (before ++ mark :: after) = splitAll mark before ++ splitAll mark after := by
  rw [splitAll, splitOnto_append, splitOnto_eq_append, List.reverse_reverse]
  rfl

private theorem splitOnto_append_reverse (mark : Char) (cs field front : List Char) :
    splitOnto mark cs (field ++ front.reverse) [] =
      (splitOnto mark cs field []).modifyHead (front ++ ·) := by
  induction cs generalizing field with
  | nil => simp [splitOnto]
  | cons c cs ih =>
    rw [splitOnto, splitOnto]
    split
    · rw [splitOnto_eq_append mark cs [] [_], splitOnto_eq_append mark cs [] [field.reverse]]
      simp
    · exact ih (c :: field)

/-- A character other than the mark stands in front of the first field. -/
theorem splitAll_cons_of_ne {c : Char} (h : c ≠ mark) (cs : List Char) :
    splitAll mark (c :: cs) = (splitAll mark cs).modifyHead (c :: ·) := by
  rw [splitAll, splitOnto, if_neg h]
  exact splitOnto_append_reverse mark cs [] [c]

theorem splitAll_ne_nil (mark : Char) (cs : List Char) : splitAll mark cs ≠ [] := by
  intro h
  have hhead := head?_splitAll mark cs
  rw [h] at hhead
  exact nomatch hhead

/-- What holds no mark and is put behind a text becomes part of its last field. -/
theorem splitAll_append_of_not_mem (before : List Char) (h : mark ∉ after) :
    ∃ fields last, splitAll mark before = fields ++ [last] ∧
      splitAll mark (before ++ after) = fields ++ [last ++ after] := by
  suffices ∀ field, ∃ fields last, splitOnto mark before field [] = fields ++ [last] ∧
      splitOnto mark (before ++ after) field [] = fields ++ [last ++ after] from this []
  induction before with
  | nil =>
    intro field
    refine ⟨[], field.reverse, rfl, ?_⟩
    rw [List.nil_append, splitOnto_of_not_mem h, List.nil_append]
  | cons c before ih =>
    intro field
    rw [List.cons_append, splitOnto, splitOnto]
    split
    · obtain ⟨fields, last, hbefore, hafter⟩ := ih []
      -- The field that ends here stands in front of those behind it.
      refine ⟨field.reverse :: fields, last, ?_, ?_⟩
      · rw [splitOnto_eq_append, hbefore]
        rfl
      · rw [splitOnto_eq_append, hafter]
        rfl
    · exact ih _

theorem splitAll_of_not_mem (h : mark ∉ cs) : splitAll mark cs = [cs] :=
  splitOnto_of_not_mem h []

/-- Fields that each end with a mark are the fields before it, and there is nothing behind them. -/
theorem splitAll_flatMap {fields : List (List Char)} (h : ∀ field ∈ fields, mark ∉ field) :
    splitAll mark (fields.flatMap (· ++ [mark])) = fields ++ [[]] := by
  induction fields with
  | nil => rfl
  | cons field fields ih =>
    obtain ⟨hfield, hfields⟩ := List.forall_mem_cons.1 h
    rw [List.flatMap_cons, List.append_assoc, List.singleton_append, splitAll_append,
      splitAll_of_not_mem hfield, ih hfields, List.singleton_append, List.cons_append]

/-! ## At the ends -/

theorem dropStart?_eq_some_iff {start rest : List Char} :
    dropStart? start cs = some rest ↔ cs = start ++ rest := by
  -- By induction on the expected start, compared character by character.
  induction start generalizing cs with
  | nil => simp [dropStart?]
  | cons s start ih =>
    cases cs with
    | nil => simp [dropStart?]
    | cons c cs =>
      rw [dropStart?]
      by_cases h : s = c
      · rw [if_pos h, ih]
        simp [h]
      · rw [if_neg h]
        simp [Ne.symm h]

theorem dropEnd?_eq_some_iff {ending rest : List Char} :
    dropEnd? ending cs = some rest ↔ cs = rest ++ ending := by
  rw [dropEnd?, Option.map_eq_some_iff]
  -- The end of a text is the start of the reversed text.
  constructor
  · rintro ⟨reversed, hdrop, rfl⟩
    have hcs := congrArg List.reverse (dropStart?_eq_some_iff.1 hdrop)
    simpa using hcs
  · rintro rfl
    exact ⟨rest.reverse, dropStart?_eq_some_iff.2 (by simp), List.reverse_reverse _⟩

/-! ## Lines -/

/-- A function to which a carriage return at the end of a line means nothing sees the same in the
lines of a text as in the fields between line feeds, but for an empty field at the end. -/
theorem exists_map_splitAll_eq {β : Type} (f : List Char → β) (h : ∀ l, f (l ++ ['\r']) = f l)
    (cs : List Char) :
    ∃ rest, (splitAll '\n' cs).map f = (lines cs).map f ++ rest ∧ ∀ x ∈ rest, x = f [] := by
  suffices ∀ (line : List Char) (fields ls : List (List Char)), fields.map f = ls.map f →
      ∃ rest, (splitOnto '\n' cs line fields).map f = (linesOnto cs line ls).map f ++ rest ∧
        ∀ x ∈ rest, x = f [] from this [] [] [] rfl
  intro line fields ls hfields
  fun_induction linesOnto cs line ls generalizing fields with
  | case1 ls =>
    -- The text ends with a line feed, behind which there is no line but an empty field.
    refine ⟨[f []], ?_, by simp⟩
    simp [splitOnto, hfields]
  | case2 line ls hline =>
    refine ⟨[], ?_, by simp⟩
    simp [splitOnto, hfields]
  | case3 cs line ls ih =>
    rw [splitOnto, if_pos rfl]
    apply ih
    simp [h, hfields]
  | case4 cs line ls hline ih =>
    rw [splitOnto, if_pos rfl]
    apply ih
    simp [hfields]
  | case5 c cs line ls hreturn hfeed ih =>
    have hc : c ≠ '\n' := by
      rintro rfl
      exact hfeed rfl
    rw [splitOnto, if_neg hc]
    exact ih _ hfields

end DepTriage.Text
