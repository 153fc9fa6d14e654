import DepTriage.IgnoreList
import DepTriage.Proofs.Text.Split

/-!
# What a wildcard stands for

A pattern is compared with a text part by part: the first and the last part are cut off its ends,
and each part between them is looked for as early as it occurs, without ever going back. Here the
same is said of single characters, where each `*` may stand for any text.

Nothing is lost by the early choice: what a later occurrence leaves of the text is an end of what
the earliest one leaves, and parts that are found in an end of a text are found in all of it.

## Key results

- `afterFirst?_eq_some`, `exists_afterFirst?_eq`: the earliest occurrence of a part
- `matchParts_iff`: looking for parts finds them wherever they occur in order
- `standsFor_iff_spaced`: a pattern stands for its parts with any texts between them
- `covers_iff_standsFor`: which texts match a pattern, and which names an ignore list covers
-/

namespace DepTriage

namespace Text

/-- The texts that a pattern stands for: each `*` is replaced by a text, which may be empty. -/
inductive StandsFor : (pattern text : List Char) → Prop
  | nil : StandsFor [] []
  | star {pattern text : List Char} (filling : List Char) (h : StandsFor pattern text) :
      StandsFor ('*' :: pattern) (filling ++ text)
  | char {c : Char} {pattern text : List Char} (hc : c ≠ '*') (h : StandsFor pattern text) :
      StandsFor (c :: pattern) (c :: text)

/-! ## Parts in order -/

/-- The parts occur in a text one behind the other. -/
def InOrder : (parts : List (List Char)) → List Char → Prop
  | [], _ => True
  | part :: parts, cs => ∃ gap rest, cs = gap ++ part ++ rest ∧ InOrder parts rest

/-- Parts that are found in the end of a text are found in all of it. -/
theorem InOrder.append {parts : List (List Char)} {cs : List Char} (h : InOrder parts cs)
    (front : List Char) : InOrder parts (front ++ cs) := by
  cases parts with
  | nil => trivial
  | cons part parts =>
    obtain ⟨gap, rest, rfl, hrest⟩ := h
    exact ⟨front ++ gap, rest, by simp, hrest⟩

theorem afterFirst?_eq_some {part cs rest : List Char} (h : afterFirst? part cs = some rest) :
    ∃ gap, cs = gap ++ part ++ rest := by
  -- By induction on the text, cut where the part first stands.
  induction cs with
  | nil =>
    rw [afterFirst?] at h
    split at h
    · next hempty =>
      obtain rfl := Option.some.inj h
      exact ⟨[], by simp [List.isEmpty_iff.1 hempty]⟩
    · exact nomatch h
  | cons c cs ih =>
    rw [afterFirst?] at h
    cases hdrop : dropStart? part (c :: cs) with
    | some here =>
      rw [hdrop] at h
      obtain rfl := Option.some.inj h
      exact ⟨[], dropStart?_eq_some_iff.1 hdrop⟩
    | none =>
      rw [hdrop] at h
      obtain ⟨gap, rfl⟩ := ih h
      exact ⟨c :: gap, rfl⟩

/-- What follows any occurrence of a part is an end of what follows the earliest one. -/
theorem exists_afterFirst?_eq (gap part rest : List Char) :
    ∃ between, afterFirst? part (gap ++ part ++ rest) = some (between ++ rest) := by
  induction gap with
  | nil =>
    have hdrop : dropStart? part (part ++ rest) = some rest := dropStart?_eq_some_iff.2 rfl
    refine ⟨[], ?_⟩
    cases hcs : part ++ rest with
    | nil =>
      obtain ⟨rfl, rfl⟩ := List.append_eq_nil_iff.1 hcs
      rfl
    | cons c cs =>
      rw [hcs] at hdrop
      simp only [List.nil_append, hcs, afterFirst?, hdrop]
  | cons c gap ih =>
    simp only [List.cons_append, afterFirst?]
    cases hdrop : dropStart? part (c :: (gap ++ part ++ rest)) with
    | none => exact ih
    | some here =>
      -- The part occurs in front of the gap, so that more of the text follows it.
      have hhere : c :: (gap ++ part ++ rest) = part ++ here := dropStart?_eq_some_iff.1 hdrop
      have hlength := congrArg List.length hhere
      simp only [List.length_cons, List.length_append] at hlength
      have hend : rest <:+ c :: (gap ++ part ++ rest) := ⟨c :: (gap ++ part), by simp⟩
      have hendHere : here <:+ c :: (gap ++ part ++ rest) := ⟨part, hhere.symm⟩
      have hsuffix : rest <:+ here := List.suffix_of_suffix_length_le hend hendHere (by omega)
      obtain ⟨between, rfl⟩ := hsuffix
      exact ⟨between, rfl⟩

/-- Looking for each part as early as it occurs finds parts that occur in order at all. -/
theorem matchParts_iff {parts : List (List Char)} {cs : List Char} :
    matchParts parts cs = true ↔ InOrder parts cs := by
  induction parts generalizing cs with
  | nil => simp [matchParts, InOrder]
  | cons part parts ih =>
    rw [matchParts, InOrder]
    constructor
    · intro h
      cases hfirst : afterFirst? part cs with
      | none =>
        rw [hfirst] at h
        exact nomatch h
      | some rest =>
        rw [hfirst] at h
        obtain ⟨gap, hcs⟩ := afterFirst?_eq_some hfirst
        exact ⟨gap, rest, hcs, ih.1 h⟩
    -- Behind the earliest occurrence there is at least as much text as behind the given one.
    · rintro ⟨gap, rest, rfl, hrest⟩
      obtain ⟨between, hfirst⟩ := exists_afterFirst?_eq gap part rest
      rw [hfirst]
      exact ih.2 (hrest.append between)

/-! ## Parts with gaps between them -/

/-- A text is made of parts in their order, with some text between each two. -/
def Spaced : (parts : List (List Char)) → List Char → Prop
  | [], text => text = []
  | [part], text => text = part
  | part :: next :: parts, text =>
    ∃ gap rest, text = part ++ gap ++ rest ∧ Spaced (next :: parts) rest

theorem spaced_cons_iff {part : List Char} {parts : List (List Char)} (h : parts ≠ [])
    {text : List Char} :
    Spaced (part :: parts) text ↔ ∃ gap rest, text = part ++ gap ++ rest ∧ Spaced parts rest := by
  cases parts with
  | nil => exact absurd rfl h
  | cons next parts => rfl

/-- A character in front of the first part stands in front of the text. -/
theorem spaced_modifyHead_iff {c : Char} {parts : List (List Char)} (h : parts ≠ [])
    {text : List Char} :
    Spaced (parts.modifyHead (c :: ·)) text ↔ ∃ rest, text = c :: rest ∧ Spaced parts rest := by
  cases parts with
  | nil => exact absurd rfl h
  | cons part parts =>
    -- A single part fills the text; otherwise the first character belongs to the first part.
    cases parts with
    | nil => simp [Spaced]
    | cons next parts =>
      constructor
      · rintro ⟨gap, rest, rfl, hrest⟩
        exact ⟨part ++ gap ++ rest, rfl, gap, rest, rfl, hrest⟩
      · rintro ⟨_, rfl, gap, rest, rfl, hrest⟩
        exact ⟨gap, rest, rfl, hrest⟩

/-- A pattern stands for its parts with any texts between them. -/
theorem standsFor_iff_spaced {pattern text : List Char} :
    StandsFor pattern text ↔ Spaced (splitAll '*' pattern) text := by
  induction pattern generalizing text with
  | nil =>
    constructor
    · rintro ⟨⟩
      rfl
    · rintro rfl
      exact .nil
  | cons c pattern ih =>
    -- A star opens an empty part of its own, and any other character extends the first part.
    by_cases hc : c = '*'
    · subst hc
      have hparts : splitAll '*' ('*' :: pattern) = [] :: splitAll '*' pattern :=
        splitAll_append '*' [] pattern
      rw [hparts, spaced_cons_iff (splitAll_ne_nil '*' pattern)]
      constructor
      · intro h
        cases h with
        | star filling h => exact ⟨filling, _, rfl, ih.1 h⟩
        | char hc => exact absurd rfl hc
      · rintro ⟨gap, rest, rfl, hrest⟩
        exact .star gap (ih.2 hrest)
    · rw [splitAll_cons_of_ne hc, spaced_modifyHead_iff (splitAll_ne_nil '*' pattern)]
      constructor
      · intro h
        cases h with
        | star => exact absurd rfl hc
        | char _ h => exact ⟨_, rfl, ih.1 h⟩
      · rintro ⟨rest, rfl, hrest⟩
        exact .char hc (ih.2 hrest)

/-- Behind a gap, parts fill a text up to its end exactly if the last one is its end and the others
occur in order in front of it. -/
theorem exists_spaced_iff {parts : List (List Char)} (h : parts ≠ []) {text : List Char} :
    (∃ gap rest, text = gap ++ rest ∧ Spaced parts rest) ↔
      ∃ body, text = body ++ parts.getLastD [] ∧ InOrder parts.dropLast body := by
  -- By induction on the parts: the gap in front of the last one ends the body.
  induction parts generalizing text with
  | nil => exact absurd rfl h
  | cons part parts ih =>
    cases parts with
    | nil => simp [Spaced, InOrder]
    | cons next parts =>
      have hne : next :: parts ≠ [] := List.cons_ne_nil next parts
      have hlast : (part :: next :: parts).getLastD [] = (next :: parts).getLastD [] := rfl
      rw [hlast]
      constructor
      · rintro ⟨gap, _, rfl, between, rest, rfl, hrest⟩
        obtain ⟨body, hbody, horder⟩ := (ih hne).1 ⟨between, rest, rfl, hrest⟩
        refine ⟨gap ++ part ++ body, ?_, gap, body, rfl, horder⟩
        rw [List.append_assoc (gap ++ part), ← hbody]
        simp
      · rintro ⟨_, rfl, gap, body, rfl, horder⟩
        obtain ⟨between, rest, hbody, hrest⟩ := (ih hne).2 ⟨body, rfl, horder⟩
        refine ⟨gap, part ++ between ++ rest, ?_, between, rest, rfl, hrest⟩
        rw [List.append_assoc (gap ++ part), hbody]
        simp

/-- A text is spaced out by several parts exactly if it has the first one at its start, the last one
at the end of what is left, and the others in order between them. -/
theorem spaced_iff_inOrder {first : List Char} {parts : List (List Char)} (h : parts ≠ [])
    {text : List Char} :
    Spaced (first :: parts) text ↔
      ∃ body, text = first ++ (body ++ parts.getLastD []) ∧ InOrder parts.dropLast body := by
  rw [spaced_cons_iff h]
  constructor
  · rintro ⟨gap, rest, rfl, hrest⟩
    obtain ⟨body, hbody, horder⟩ := (exists_spaced_iff h).1 ⟨gap, rest, rfl, hrest⟩
    exact ⟨body, by rw [← hbody, List.append_assoc], horder⟩
  · rintro ⟨body, rfl, horder⟩
    obtain ⟨gap, rest, hbody, hrest⟩ := (exists_spaced_iff h).2 ⟨body, rfl, horder⟩
    exact ⟨gap, rest, by rw [hbody, List.append_assoc], hrest⟩

/-! ## Patterns -/

/-- A text that a pattern matches is one that it stands for. -/
theorem matchesWildcard_iff {pattern text : List Char} :
    matchesWildcard pattern text = true ↔ StandsFor pattern text := by
  rw [standsFor_iff_spaced, matchesWildcard]
  cases hparts : splitAll '*' pattern with
  | nil => exact absurd hparts (splitAll_ne_nil '*' pattern)
  | cons first rest =>
    cases rest with
    | nil => exact beq_iff_eq.trans eq_comm
    | cons next parts =>
      rw [spaced_iff_inOrder (List.cons_ne_nil next parts)]
      dsimp only
      constructor
      · intro h
        cases hfirst : dropStart? first text with
        | none =>
          rw [hfirst] at h
          exact nomatch h
        | some inner =>
          rw [hfirst] at h
          dsimp only at h
          cases hlast : dropEnd? ((next :: parts).getLastD []) inner with
          | none =>
            rw [hlast] at h
            exact nomatch h
          | some body =>
            rw [hlast] at h
            refine ⟨body, ?_, matchParts_iff.1 h⟩
            rw [dropStart?_eq_some_iff.1 hfirst, dropEnd?_eq_some_iff.1 hlast]
      · rintro ⟨body, htext, horder⟩
        -- The last part is cut off what the first one leaves, so that the two do not overlap.
        rw [dropStart?_eq_some_iff.2 htext]
        dsimp only
        rw [dropEnd?_eq_some_iff.2 rfl]
        exact matchParts_iff.2 horder

end Text

/-- A pattern matches exactly the texts that come from it if each `*` is replaced by some text, and
an ignore list covers exactly the names that come from one of its patterns in this way. -/
theorem IgnoreList.covers_iff_standsFor :
    (∀ pattern text : List Char,
      Text.matchesWildcard pattern text = true ↔ Text.StandsFor pattern text) ∧
    ∀ (ignore : IgnoreList) (name : String),
      ignore.covers name = true ↔
        ∃ pattern ∈ ignore.patterns, Text.StandsFor pattern.toList name.toList := by
  refine ⟨fun pattern text => Text.matchesWildcard_iff, fun ignore name => ?_⟩
  rw [covers, List.any_eq_true]
  simp only [Text.matchesWildcard_iff]

-- The two ends of a text are cut off one after the other and cannot overlap.
example : Text.matchesWildcard "ab*ba".toList "aba".toList = false := by decide

end DepTriage
