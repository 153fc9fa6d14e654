import DepTriage.Toml.Lexeme
import DepTriage.Toml.Printer

/-!
# Written TOML strings read back

A string is written in one of several ways, by what it holds: between quotation marks or
apostrophes, of which there are one or three. Each of them reads back, whatever follows the string,
as long as this is not another mark: between marks in a row, only their number tells which of them
close the string.

## Key results

- `ReadsEscapes.escapeOf`: an escape reads back
- `basicString?_escapeText`, `basicLines?_escapeText`: so does a text between quotation marks
- `literalString?_append`, `literalLines?_append`: and one between apostrophes, as it stands
- `string?_stringText`: a string as it is written
-/

namespace DepTriage.Toml

open Text

/-! ## Characters -/

/-- A newline apart, the characters that need no escape may stand in any string. -/
theorem isPrintable_of_not_needsEscape {c : Char} (h : needsEscape c = false) (hline : c ≠ '\n') :
    isPrintable c = true := by
  have hdel : c.toNat ≠ 0x7F := fun hc => by
    have hchar : c = '\x7f' := Char.toNat_inj.1 hc
    rw [hchar] at h
    exact absurd h (by decide)
  by_cases htab : c = '\t'
  · rw [htab]
    decide
  · have hlow : 0x20 ≤ c.toNat := by
      rw [needsEscape] at h
      simp [htab, hline] at h
      exact h.1
    have hspace : ' ' ≤ c := hlow
    -- What needs no escape and is no control character is printable ASCII or comes behind it.
    by_cases hhigh : 0x80 ≤ c.toNat
    · simp [isPrintable, hhigh]
    · have htilde : c ≤ '~' := show c.toNat ≤ 0x7E by omega
      simp [isPrintable, hspace, htilde]

/-- The last digits of a code point below 128, as they are written. -/
theorem hexLower_toUpper {n : Nat} (h : n < 0x80) :
    ∃ high low, (hexLower 4 n).map Char.toUpper = ['0', '0', high, low] ∧
      hexDigit? high = some (n / 16) ∧ hexDigit? low = some (n % 16) := by
  have hall : ∀ n < 0x80, (hexLower 4 n).map Char.toUpper =
        ['0', '0', (n / 16).digitChar.toUpper, (n % 16).digitChar.toUpper] ∧
      hexDigit? (n / 16).digitChar.toUpper = some (n / 16) ∧
      hexDigit? (n % 16).digitChar.toUpper = some (n % 16) := by decide
  exact ⟨_, _, hall n h⟩

theorem charOfCode?_toNat (c : Char) : charOfCode? c.toNat = some c := by
  have hvalid : c.toNat.isValidChar := c.valid
  rw [charOfCode?, dif_pos hvalid]
  rfl

/-! ## Escapes -/

/-- What a reader of quoted text does at an escape of a letter or of a code point. -/
structure ReadsEscapes
    (read : List Char → QuoteState → List Char → Option (String × List Char)) : Prop where
  backslash : ∀ cs text, read ('\\' :: cs) .text text = read cs .backslash text
  letter : ∀ {c d} cs text, escapedChar? c = some d →
    read (c :: cs) .backslash text = read cs .text (d :: text)
  width : ∀ cs text, read ('u' :: cs) .backslash text = read cs (.code 4 0) text
  digit : ∀ {c d digits value} cs text, hexDigit? c = some d → 1 < digits →
    read (c :: cs) (.code digits value) text = read cs (.code (digits - 1) (16 * value + d)) text
  lastDigit : ∀ {c d value e} cs text, hexDigit? c = some d →
    charOfCode? (16 * value + d) = some e →
    read (c :: cs) (.code 1 value) text = read cs .text (e :: text)

theorem readsEscapes_basicString? : ReadsEscapes basicString? where
  backslash _ _ := rfl
  letter cs text h := by simp only [basicString?, h]
  width _ _ := rfl
  digit cs text h hmore := by
    simp only [basicString?, h, if_neg (show ¬_ ≤ 1 from Nat.not_le_of_lt hmore)]
  lastDigit cs text h hcode := by simp only [basicString?, h, hcode, Nat.le_refl, if_true]

theorem readsEscapes_basicLines? : ReadsEscapes basicLines? where
  backslash _ _ := rfl
  letter cs text h := by simp only [basicLines?, h]
  width _ _ := rfl
  digit cs text h hmore := by
    simp only [basicLines?, h, if_neg (show ¬_ ≤ 1 from Nat.not_le_of_lt hmore)]
  lastDigit cs text h hcode := by simp only [basicLines?, h, hcode, Nat.le_refl, if_true]

/-- The characters that are written as escapes, some of them only where they need to be. -/
def IsEscaped (c : Char) : Prop :=
  c = '"' ∨ c = '\t' ∨ c = '\n' ∨ c = '\\' ∨ needsEscape c = true

/-- An escape reads back as the character. -/
theorem ReadsEscapes.escapeOf
    {read : List Char → QuoteState → List Char → Option (String × List Char)}
    (hread : ReadsEscapes read) {c : Char} (h : IsEscaped c) (rest text : List Char) :
    read (Toml.escapeOf c ++ rest) .text text = read rest .text (c :: text) := by
  rw [Toml.escapeOf.eq_def]
  split
  -- The characters with an escape of one letter.
  iterate 7 exact (hread.backslash _ _).trans (hread.letter _ _ rfl)
  · next hback htab hline hfeed hreturn hquote hslash =>
    have hcontrol : needsEscape c = true :=
      h.elim (fun hc => (hquote hc).elim) fun h => h.elim (fun hc => (htab hc).elim) fun h =>
        h.elim (fun hc => (hline hc).elim) fun h => h.resolve_left hslash
    have hlow : c.toNat < 0x80 := by
      simp only [needsEscape, Bool.or_eq_true, Bool.and_eq_true, decide_eq_true_eq,
        beq_iff_eq] at hcontrol
      rcases hcontrol with hcontrol | rfl
      · omega
      · decide
    obtain ⟨high, low, hdigits, hhigh, hlast⟩ := hexLower_toUpper hlow
    have hzero : hexDigit? '0' = some 0 := rfl
    have hcode : charOfCode? (16 * (16 * (16 * (16 * 0 + 0) + 0) + c.toNat / 16) + c.toNat % 16) =
        some c := by
      rw [show 16 * (16 * (16 * (16 * 0 + 0) + 0) + c.toNat / 16) + c.toNat % 16 = c.toNat by omega]
      exact charOfCode?_toNat c
    rw [hdigits]
    calc read ('\\' :: 'u' :: '0' :: '0' :: high :: low :: rest) .text text
        = read ('0' :: '0' :: high :: low :: rest) (.code 4 0) text :=
          (hread.backslash _ _).trans (hread.width _ _)
      _ = read (low :: rest) (.code 1 (16 * (16 * (16 * 0 + 0) + 0) + c.toNat / 16)) text := by
          rw [hread.digit _ _ hzero (by decide), hread.digit _ _ hzero (by decide),
            hread.digit _ _ hhigh (by decide)]
      _ = read rest .text (c :: text) := hread.lastDigit _ _ hlast hcode

theorem escapeOf_eq (c : Char) : ∃ cs, escapeOf c = '\\' :: cs := by
  rw [escapeOf.eq_def]
  split <;> exact ⟨_, rfl⟩

/-- A character stands as it is, up to two quotation marks in a row being left in a string of
several lines, or is escaped. -/
theorem escapeText_cons (several : Bool) (c : Char) (cs : List Char) (quotes : Nat) :
    (several = true ∧ quotes < 2 ∧ c = '"' ∧
      escapeText several (c :: cs) quotes = c :: escapeText several cs (quotes + 1)) ∨
    (IsEscaped c ∧ escapeText several (c :: cs) quotes = escapeOf c ++ escapeText several cs 0) ∨
    (c ≠ '"' ∧ c ≠ '\\' ∧ (isPrintable c = true ∨ several = true ∧ c = '\n') ∧
      escapeText several (c :: cs) quotes = c :: escapeText several cs 0) := by
  rw [escapeText]
  -- A quote stands for itself in the several-line form only, and only twice in a row.
  by_cases hquote : c = '"'
  · rw [if_pos (beq_iff_eq.2 hquote)]
    by_cases hstands : several = true ∧ quotes < 2
    · rw [if_pos (by simp [hstands])]
      exact Or.inl ⟨hstands.1, hstands.2, hquote, rfl⟩
    · rw [if_neg (by simpa using hstands)]
      exact Or.inr (Or.inl ⟨Or.inl hquote, rfl⟩)
  · rw [if_neg (mt beq_iff_eq.1 hquote)]
    -- What needs no escape is printable, or the line break of the several-line form.
    split
    · next hescaped =>
      refine Or.inr (Or.inl ⟨?_, rfl⟩)
      simp only [Bool.or_eq_true, beq_iff_eq, Bool.and_eq_true] at hescaped
      rcases hescaped with ((htab | hslash) | hneeds) | hline
      · exact Or.inr (Or.inl htab)
      · exact Or.inr (Or.inr (Or.inr (Or.inl hslash)))
      · exact Or.inr (Or.inr (Or.inr (Or.inr hneeds)))
      · exact Or.inr (Or.inr (Or.inl hline.1))
    · next hplain =>
      simp only [Bool.or_eq_true, beq_iff_eq, Bool.and_eq_true, not_or, Bool.not_eq_true'] at hplain
      obtain ⟨⟨⟨-, hslash⟩, hneeds⟩, hline⟩ := hplain
      refine Or.inr (Or.inr ⟨hquote, hslash, ?_, rfl⟩)
      by_cases hc : c = '\n'
      · exact Or.inr ⟨by simpa [hc] using hline, hc⟩
      · exact Or.inl (isPrintable_of_not_needsEscape (Bool.eq_false_iff.2 hneeds) hc)

/-! ## Strings in quotation marks -/

/-- The text between quotation marks reads back. -/
theorem basicString?_escapeText (cs rest text : List Char) :
    basicString? (escapeText false cs 0 ++ '"' :: rest) .text text =
      some (String.ofList (text.reverse ++ cs), rest) := by
  induction cs generalizing text with
  | nil => simp [escapeText, basicString?]
  | cons c cs ih =>
    have hnext : text.reverse ++ c :: cs = (c :: text).reverse ++ cs := by simp
    -- Without several lines, a quote is always escaped.
    rcases escapeText_cons false c cs 0 with ⟨h, -⟩ | ⟨hescaped, h⟩ | ⟨hquote, hslash, hplain, h⟩
    · exact nomatch h
    · rw [h, List.append_assoc, readsEscapes_basicString?.escapeOf hescaped, ih, hnext]
    · have hprintable : isPrintable c = true := hplain.resolve_right fun h => nomatch h.1
      rw [h, List.cons_append, basicString?, if_neg (mt beq_iff_eq.1 hquote),
        if_neg (mt beq_iff_eq.1 hslash), if_pos hprintable, ih, hnext]

/-! ## Closing marks -/

/-- What follows a string does not go on with another mark of either kind. -/
structure EndsString (rest : List Char) : Prop where
  quote : rest.head? ≠ some '"'
  apostrophe : rest.head? ≠ some '\''

theorem EndsString.cons {c : Char} (hquote : c ≠ '"') (hapostrophe : c ≠ '\'')
    (rest : List Char) : EndsString (c :: rest) where
  quote heq := hquote (Option.some.inj heq)
  apostrophe heq := hapostrophe (Option.some.inj heq)

section

variable {mark : Char}

/-- Three marks close a string of several lines, and up to two marks before them belong to it. -/
theorem closingMarks?_replicate {k : Nat} (hk : k ≤ 2) {rest : List Char}
    (hrest : rest.head? ≠ some mark) :
    closingMarks? mark (List.replicate k mark ++ mark :: mark :: mark :: rest) =
      some (k, rest) := by
  -- The marks of the content and the closing ones make up one run.
  have hmarks : List.replicate k mark ++ mark :: mark :: mark :: rest =
      List.replicate (k + 3) mark ++ rest := by
    rw [← List.replicate_append_replicate, List.append_assoc]
    rfl
  have hstop : rest.takeWhile (· == mark) = [] := by
    cases rest with
    | nil => rfl
    | cons c rest => simp [show c ≠ mark from fun hc => hrest (by rw [hc]; rfl)]
  have hcount : ((List.replicate (k + 3) mark ++ rest).takeWhile (· == mark)).length = k + 3 := by
    rw [List.takeWhile_append_of_pos (by simp), hstop]
    simp
  rw [hmarks, closingMarks?, hcount, if_neg (by omega), Nat.add_sub_cancel, Nat.min_eq_left hk]
  show some (k, List.drop (k + 3) (List.replicate (k + 3) mark ++ rest)) = _
  rw [List.drop_left' List.length_replicate]

/-- Fewer than three marks in a row close nothing. -/
theorem closingMarks?_eq_none {cs : List Char} (h : (cs.takeWhile (· == mark)).length < 3) :
    closingMarks? mark cs = none := by
  rw [closingMarks?, if_pos h]

/-- A text in which no three marks stand in a row starts with two at most. -/
theorem length_takeWhile_lt {cs : List Char} (h : isInfix [mark, mark, mark] cs = false) :
    (cs.takeWhile (· == mark)).length < 3 := by
  refine Nat.not_le.1 fun hrun => ?_
  -- Three marks in a row would be the infix that is ruled out.
  have hprefix : List.replicate 3 mark <+: cs := by
    have hmarks : cs.takeWhile (· == mark) =
        List.replicate (cs.takeWhile (· == mark)).length mark :=
      List.eq_replicate_of_mem fun c hc => beq_iff_eq.1 (List.all_eq_true.1 List.all_takeWhile c hc)
    refine .trans ?_ (List.takeWhile_prefix (· == mark))
    obtain ⟨n, hlength⟩ := Nat.exists_eq_add_of_le hrun
    rw [hmarks, hlength, ← List.replicate_append_replicate]
    exact List.prefix_append _ _
  obtain ⟨rest, rfl⟩ := hprefix
  simp [isInfix, List.replicate, afterFirst?, dropStart?] at h

/-- Where a text without three marks in a row is followed by more, it consists of two marks at most,
or else what follows adds nothing to the marks that it starts with. -/
theorem marks_cases {cs : List Char} (h : isInfix [mark, mark, mark] cs = false)
    (more : List Char) :
    (∃ k ≤ 2, cs = List.replicate k mark) ∨ ((cs ++ more).takeWhile (· == mark)).length < 3 := by
  have hrun := length_takeWhile_lt h
  rw [List.takeWhile_append]
  -- Either the marks fill the whole text, or their run ends within it.
  split
  · next hall =>
    have hmarks : cs.takeWhile (· == mark) = cs :=
      (List.takeWhile_prefix (· == mark)).eq_of_length hall
    refine .inl ⟨cs.length, by omega, List.eq_replicate_of_mem fun c hc => ?_⟩
    rw [← hmarks] at hc
    exact beq_iff_eq.1 (List.all_eq_true.1 List.all_takeWhile c hc)
  · exact .inr hrun

theorem isInfix_of_cons {part cs : List Char} {c : Char} (h : isInfix part (c :: cs) = false) :
    isInfix part cs = false := by
  rw [isInfix, afterFirst?] at h
  split at h
  · exact nomatch h
  · exact h

end

/-! ## Strings of several lines -/

/-- Where a written text goes on with quotation marks, it is at its end, or two of them stand in a
row at most, counting those that came before. -/
theorem escapeText_quotes (cs : List Char) {quotes : Nat} (hquotes : quotes ≤ 2)
    (more : List Char) :
    (∃ k, cs = List.replicate k '"' ∧ escapeText true cs quotes = cs ∧ k + quotes ≤ 2) ∨
      ((escapeText true cs quotes ++ more).takeWhile (· == '"')).length + quotes ≤ 2 := by
  induction cs generalizing quotes with
  | nil => exact Or.inl ⟨0, rfl, rfl, by omega⟩
  | cons c cs ih =>
    rcases escapeText_cons true c cs quotes with
      -- Marks that stand for themselves are counted on, and anything else ends their run.
      ⟨-, hfew, rfl, h⟩ | ⟨-, h⟩ | ⟨hquote, -, -, h⟩
    · rcases ih (show quotes + 1 ≤ 2 from hfew) with ⟨k, hcs, htext, hk⟩ | hrun
      · exact Or.inl ⟨k + 1, by rw [List.replicate_succ, ← hcs], by rw [h, htext], by omega⟩
      · refine Or.inr ?_
        rw [h, List.cons_append, List.takeWhile_cons_of_pos (by rfl), List.length_cons]
        omega
    · obtain ⟨tail, htail⟩ := escapeOf_eq c
      refine Or.inr ?_
      rw [h, htail]
      simpa using hquotes
    · refine Or.inr ?_
      rw [h]
      simpa [hquote] using hquotes

/-- The text between three quotation marks reads back. -/
theorem basicLines?_escapeText (cs : List Char) {quotes : Nat} (hquotes : quotes ≤ 2)
    {rest : List Char} (hrest : EndsString rest) (text : List Char) :
    basicLines? (escapeText true cs quotes ++ '"' :: '"' :: '"' :: rest) .text text =
      some (String.ofList (text.reverse ++ cs), rest) := by
  induction cs generalizing quotes text with
  | nil =>
    have hclose := closingMarks?_replicate (Nat.zero_le 2) hrest.quote
    rw [List.replicate_zero, List.nil_append] at hclose
    simp [escapeText, basicLines?, hclose]
  | cons c cs ih =>
    have hnext : text.reverse ++ c :: cs = (c :: text).reverse ++ cs := by simp
    rcases escapeText_cons true c cs quotes with
      ⟨-, hfew, rfl, h⟩ | ⟨hescaped, h⟩ | ⟨hquote, hslash, hplain, h⟩
    · rcases escapeText_quotes ('"' :: cs) hquotes ('"' :: '"' :: '"' :: rest) with
        ⟨k, hcs, htext, hk⟩ | hrun
      -- Only the marks at the end are left, and the reader takes them all at once.
      · have hclose := closingMarks?_replicate (show k ≤ 2 by omega) hrest.quote
        rw [← hcs, List.cons_append] at hclose
        rw [htext, List.cons_append, basicLines?, if_pos (beq_self_eq_true '"'), hclose, hcs]
      · have hopen : closingMarks? '"' ('"' :: (escapeText true cs (quotes + 1) ++
            '"' :: '"' :: '"' :: rest)) = none := by
          rw [h] at hrun
          exact closingMarks?_eq_none (Nat.lt_succ_of_le (Nat.le_of_add_right_le hrun))
        rw [h, List.cons_append, basicLines?, if_pos (beq_self_eq_true '"'), hopen,
          ih hfew, hnext]
    · rw [h, List.append_assoc, readsEscapes_basicLines?.escapeOf hescaped, ih (Nat.zero_le 2),
        hnext]
    · have hstands : (c == '\n' || isPrintable c) = true := by
        rcases hplain with hplain | ⟨-, rfl⟩
        · rw [hplain, Bool.or_true]
        · rfl
      rw [h, List.cons_append, basicLines?, if_neg (mt beq_iff_eq.1 hquote),
        if_neg (mt beq_iff_eq.1 hslash), if_pos hstands, ih (Nat.zero_le 2), hnext]

theorem newline?_of_isPrintable {c : Char} (h : isPrintable c = true) (cs : List Char) :
    newline? (c :: cs) = none := by
  rw [newline?.eq_def]
  split
  · next heq =>
    rw [(List.cons.inj heq).1] at h
    exact nomatch h
  · next heq =>
    rw [(List.cons.inj heq).1] at h
    exact nomatch h
  · rfl

/-- A written text without a newline starts with none. -/
theorem newline?_escapeText {cs : List Char} (h : '\n' ∉ cs) (rest : List Char) :
    newline? (escapeText true cs 0 ++ '"' :: rest) = none := by
  cases cs with
  | nil => rfl
  | cons c cs =>
    -- The first character printed is a quote, a backslash or printable: never a line break.
    rcases escapeText_cons true c cs 0 with ⟨-, -, rfl, htext⟩ | ⟨-, htext⟩ | ⟨-, -, hplain, htext⟩
    · rw [htext]
      rfl
    · obtain ⟨tail, htail⟩ := escapeOf_eq c
      rw [htext, htail]
      rfl
    · have hprintable : isPrintable c = true :=
        hplain.resolve_right fun hline => h (by rw [hline.2]; exact List.mem_cons_self)
      rw [htext]
      exact newline?_of_isPrintable hprintable _

/-- The newline after the opening marks is no part of the string, but it is only put there if
another one follows. -/
theorem dropFirstNewline_betweenMarks {cs text : List Char}
    (h : '\n' ∉ cs → newline? text = none) :
    dropFirstNewline ((if cs.contains '\n' then ['\n'] else []) ++ text) = text := by
  by_cases hline : '\n' ∈ cs
  · rw [if_pos (List.contains_iff_mem.2 hline)]
    rfl
  · rw [if_neg (mt List.contains_iff_mem.1 hline), List.nil_append, dropFirstNewline, h hline]
    rfl

theorem betweenMarks_append (mark : Char) (cs text rest : List Char) :
    betweenMarks mark cs text ++ rest =
      mark :: mark :: mark :: ((if cs.contains '\n' then ['\n'] else []) ++
        (text ++ mark :: mark :: mark :: rest)) := by
  simp [betweenMarks]

/-- A string in three quotation marks reads back. -/
theorem string?_severalLines (cs : List Char) {rest : List Char} (hrest : EndsString rest) :
    string? (severalLines cs ++ rest) = some (String.ofList cs, rest) := by
  rw [severalLines, betweenMarks_append]
  show basicLines? (dropFirstNewline _) .text [] = _
  rw [dropFirstNewline_betweenMarks (newline?_escapeText · _),
    basicLines?_escapeText cs (Nat.zero_le 2) hrest]
  rfl

/-! ## Strings in apostrophes -/

/-- Characters that need no escape read back between three apostrophes, as long as no three of them
are apostrophes in a row. -/
theorem literalLines?_append {cs : List Char} (hescapes : cs.any needsEscape = false)
    (hruns : isInfix ['\'', '\'', '\''] cs = false) {rest : List Char} (hrest : EndsString rest)
    (text : List Char) :
    literalLines? (cs ++ '\'' :: '\'' :: '\'' :: rest) text =
      some (String.ofList (text.reverse ++ cs), rest) := by
  induction cs generalizing text with
  | nil =>
    have hclose := closingMarks?_replicate (Nat.zero_le 2) hrest.apostrophe
    rw [List.replicate_zero, List.nil_append] at hclose
    simp [literalLines?, hclose]
  | cons c cs ih =>
    have hnext : text.reverse ++ c :: cs = (c :: text).reverse ++ cs := by simp
    rw [List.any_cons, Bool.or_eq_false_iff] at hescapes
    obtain ⟨hneeds, hescapes⟩ := hescapes
    have ih := ih hescapes (isInfix_of_cons hruns) (c :: text)
    by_cases hmark : c = '\''
    · rw [List.cons_append, literalLines?, if_pos (beq_iff_eq.2 hmark), ← List.cons_append]
      rcases marks_cases hruns ('\'' :: '\'' :: '\'' :: rest) with ⟨k, hk, hcs⟩ | hrun
      -- Only the marks at the end are left, and the reader takes them all at once.
      · rw [hcs, closingMarks?_replicate hk hrest.apostrophe]
      · rw [closingMarks?_eq_none hrun, hnext]
        exact ih
    · have hstands : (c == '\n' || isPrintable c) = true := by
        by_cases hline : c = '\n'
        · rw [hline]
          rfl
        · rw [isPrintable_of_not_needsEscape hneeds hline, Bool.or_true]
      rw [List.cons_append, literalLines?, if_neg (mt beq_iff_eq.1 hmark), if_pos hstands, ih,
        hnext]

/-- A text without a newline starts with none, whatever marks follow it. -/
theorem newline?_append {cs : List Char} (hescapes : cs.any needsEscape = false)
    (hline : '\n' ∉ cs) (rest : List Char) : newline? (cs ++ '\'' :: rest) = none := by
  cases cs with
  | nil => rfl
  | cons c cs =>
    rw [List.any_cons, Bool.or_eq_false_iff] at hescapes
    exact newline?_of_isPrintable (isPrintable_of_not_needsEscape hescapes.1 fun h =>
      hline (by rw [h]; exact List.mem_cons_self)) _

/-- A string in three apostrophes reads back. -/
theorem string?_literalText {cs : List Char} (hescapes : cs.any needsEscape = false)
    (hruns : isInfix ['\'', '\'', '\''] cs = false) {rest : List Char} (hrest : EndsString rest) :
    string? (literalText cs ++ rest) = some (String.ofList cs, rest) := by
  rw [literalText, betweenMarks_append]
  show literalLines? (dropFirstNewline _) [] = _
  rw [dropFirstNewline_betweenMarks (newline?_append hescapes · _),
    literalLines?_append hescapes hruns hrest]
  rfl

/-- Characters other than apostrophes that need no escape read back between apostrophes. -/
theorem literalString?_append {cs : List Char} (hescapes : cs.any needsEscape = false)
    (hline : '\n' ∉ cs) (hmark : '\'' ∉ cs) (rest : List Char) :
    literalString? (cs ++ '\'' :: rest) = some (String.ofList cs, rest) := by
  -- Every character is one the reader keeps, up to the closing mark.
  have hinside : ∀ c ∈ cs, (isPrintable c && c != '\'') = true := by
    intro c hc
    have hneeds : needsEscape c = false := by
      rw [List.any_eq_false] at hescapes
      exact Bool.eq_false_iff.2 (hescapes c hc)
    have hprintable := isPrintable_of_not_needsEscape hneeds fun h => hline (h ▸ hc)
    have hne : c ≠ '\'' := fun h => hmark (h ▸ hc)
    simp [hprintable, hne]
  have hstop : (isPrintable '\'' && '\'' != '\'') = false := by decide
  have hdrop : (cs ++ '\'' :: rest).dropWhile (fun c => isPrintable c && c != '\'') =
      '\'' :: rest := by
    rw [List.dropWhile_append_of_pos hinside, List.dropWhile_cons_of_neg (by rw [hstop]; decide)]
  have htake : (cs ++ '\'' :: rest).takeWhile (fun c => isPrintable c && c != '\'') = cs := by
    rw [List.takeWhile_append_of_pos hinside, List.takeWhile_cons_of_neg (by rw [hstop]; decide),
      List.append_nil]
  simp only [literalString?, hdrop, htake]

/-! ## Strings -/

/-- What is not a mark at the start of a string is a string of one line. -/
theorem string?_basic {cs : List Char} (h : ¬∃ rest, cs = '"' :: '"' :: rest) :
    string? ('"' :: cs) = basicString? cs .text [] := by
  rw [string?.eq_def]
  split
  · next rest heq => exact absurd ⟨rest, (List.cons.inj heq).2⟩ h
  · next heq => exact nomatch heq
  · next heq => rw [(List.cons.inj heq).2]
  · next heq => exact nomatch heq
  · next hquote _ => exact absurd rfl (hquote cs)

theorem string?_literal {cs : List Char} (h : cs.head? ≠ some '\'') :
    string? ('\'' :: cs) = literalString? cs := by
  -- The three-mark opening is ruled out, and every other opening is a different mark.
  rw [string?.eq_def]
  split
  · next heq => exact nomatch heq
  · next rest heq =>
    rw [(List.cons.inj heq).2] at h
    exact absurd rfl h
  · next heq => exact nomatch heq
  · next heq => rw [(List.cons.inj heq).2]
  · next hnone => exact absurd rfl (hnone cs)

theorem string?_basicText (cs : List Char) {rest : List Char} (hrest : EndsString rest) :
    string? (basicText cs ++ rest) = some (String.ofList cs, rest) := by
  rw [basicText, List.cons_append, List.append_assoc, List.singleton_append, string?_basic,
    basicString?_escapeText]
  · rfl
  -- Two more marks right behind the first would open a text of several lines.
  · rintro ⟨more, heq⟩
    cases cs with
    | nil =>
      rw [escapeText, List.nil_append] at heq
      exact hrest.quote (by rw [(List.cons.inj heq).2]; rfl)
    | cons c cs =>
      rcases escapeText_cons false c cs 0 with ⟨h, -⟩ | ⟨-, h⟩ | ⟨hquote, -, -, h⟩
      · exact nomatch h
      · obtain ⟨tail, htail⟩ := escapeOf_eq c
        rw [h, htail] at heq
        exact nomatch heq
      · rw [h] at heq
        exact hquote (List.cons.inj heq).1

/-- A string reads back as it was written, up to what follows it. -/
theorem string?_stringText (text : String) {rest : List Char} (hrest : EndsString rest) :
    string? (stringText text ++ rest) = some (text, rest) := by
  have hbasic := string?_basicText text.toList hrest
  have hseveral := string?_severalLines text.toList hrest
  rw [String.ofList_toList] at hbasic hseveral
  rw [stringText]
  split
  · exact hbasic
  · next hplain =>
    split
    · next hliteral =>
      simp only [Bool.and_eq_true, Bool.not_eq_true', List.contains_eq_mem,
        decide_eq_false_iff_not] at hliteral
      obtain ⟨⟨hescapes, hline⟩, hmark⟩ := hliteral
      have hread := literalString?_append hescapes hline hmark rest
      rw [String.ofList_toList] at hread
      -- Two more marks right behind the first would open a literal of several lines.
      have hopen : (text.toList ++ '\'' :: rest).head? ≠ some '\'' := by
        cases hcs : text.toList with
        | nil => exact absurd (by rw [hcs]; rfl) hplain
        | cons c cs =>
          rintro ⟨⟩
          exact hmark (by rw [hcs]; exact List.mem_cons_self)
      rw [List.cons_append, List.append_assoc, List.singleton_append, string?_literal hopen, hread]
    · split
      · exact hseveral
      · split
        · next hliteral =>
          simp only [Bool.and_eq_true, Bool.not_eq_true'] at hliteral
          have hread := string?_literalText hliteral.1 hliteral.2 hrest
          rwa [String.ofList_toList] at hread
        · split
          · exact hseveral
          · exact hbasic

end DepTriage.Toml
