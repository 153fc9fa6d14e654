import DepTriage.Text.Blank

/-! # Trimming texts

Trimming takes away all characters of a kind at one end, up to the first one of another kind. What
stands behind that one is never looked at.

## Key results

- `trimStart_append_of_all`, `trimStart_cons_of_not`: a text is trimmed up to a character of another
  kind
- `trimEnd_append_cons_of_not`: what stands in front of such a character is not trimmed at the end
- `exists_eq_trimEnd_append`: trimming takes away characters of the kind only
-/

namespace DepTriage.Text

variable {p : Char → Bool} {front back : List Char}

/-! ## At the start -/

theorem trimStart_append_of_all (h : ∀ c ∈ front, p c) (back : List Char) :
    trimStart p (front ++ back) = trimStart p back := by
  rw [trimStart, List.dropWhile_append_of_pos h]
  rfl

theorem trimStart_cons_of_not {c : Char} (h : ¬p c) (back : List Char) :
    trimStart p (c :: back) = c :: back :=
  List.dropWhile_cons_of_neg h

/-- A text is of one kind, or its characters of the kind end at one of another. -/
theorem all_or_exists_not (p : Char → Bool) (cs : List Char) :
    (∀ c ∈ cs, p c) ∨ ∃ front c back, cs = front ++ c :: back ∧ (∀ d ∈ front, p d) ∧ ¬p c := by
  induction cs with
  | nil => exact Or.inl nofun
  | cons c cs ih =>
    by_cases hc : p c
    · rcases ih with hall | ⟨front, d, back, rfl, hfront, hd⟩
      · exact Or.inl (List.forall_mem_cons.2 ⟨hc, hall⟩)
      · exact Or.inr ⟨c :: front, d, back, rfl, List.forall_mem_cons.2 ⟨hc, hfront⟩, hd⟩
    · exact Or.inr ⟨[], c, cs, rfl, nofun, hc⟩

/-! ## At the end -/

theorem trimEnd_append_of_all (front : List Char) (h : ∀ c ∈ back, p c) :
    trimEnd p (front ++ back) = trimEnd p front := by
  have hback : ∀ c ∈ back.reverse, p c := by simpa using h
  rw [trimEnd, List.reverse_append, List.dropWhile_append_of_pos hback]
  rfl

theorem trimEnd_append_cons_of_not {c : Char} (front back : List Char) (h : ¬p c) :
    trimEnd p (front ++ c :: back) = front ++ c :: trimEnd p back := by
  have hreverse : (front ++ c :: back).reverse = back.reverse ++ c :: front.reverse := by simp
  rw [trimEnd, trimEnd, hreverse, List.dropWhile_append]
  split
  · next hempty =>
    -- Behind the character there is nothing but what is taken away.
    rw [List.dropWhile_cons_of_neg h, List.isEmpty_iff.1 hempty]
    simp
  · simp

theorem trimEnd_of_all {cs : List Char} (h : ∀ c ∈ cs, p c) : trimEnd p cs = [] :=
  trimEnd_append_of_all [] h

/-- Trimming takes away a part at the end that is of one kind. -/
theorem exists_eq_trimEnd_append (p : Char → Bool) (cs : List Char) :
    ∃ back, cs = trimEnd p cs ++ back ∧ ∀ c ∈ back, p c := by
  refine ⟨(cs.reverse.takeWhile p).reverse, ?_, ?_⟩
  · rw [trimEnd, ← List.reverse_append, List.takeWhile_append_dropWhile, List.reverse_reverse]
  · intro c hc
    exact List.all_eq_true.1 List.all_takeWhile c (List.mem_reverse.1 hc)

end DepTriage.Text
