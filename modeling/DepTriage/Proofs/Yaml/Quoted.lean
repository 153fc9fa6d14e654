import DepTriage.Yaml.Scalar
import Mathlib.Tactic.IntervalCases
import Mathlib.Tactic.Ring

/-!
# Texts in double quotes

Any text can be written in double quotes on one line: what is no printed character of ASCII is given
by its code point. Reading gives the text back.

## Key results

- `doubleQuoted_append`: what is written in double quotes is read as it was
- `of_mem_quoted`: it holds only characters that a document may hold, and no break
-/

namespace DepTriage.Yaml

open DepTriage.Text

/-! ## Places -/

/-- The characters of a text from a place on. -/
def placesFrom (cs : List Char) (index line column : Nat) : List Place :=
  placeOnto cs index line column []

theorem placeOnto_eq_append (cs : List Char) (index line column : Nat) (placed : List Place) :
    placeOnto cs index line column placed =
      placed.reverse ++ placesFrom cs index line column := by
  rw [placesFrom]
  -- The places are collected in reverse, so the lemma is about any list they are put onto.
  induction cs generalizing index line column placed with
  | nil => simp [placeOnto]
  | cons c cs ih =>
    simp only [placeOnto]
    -- A line break starts a new line; any other character takes one column.
    split
    · rw [ih, ih _ _ _ [_]]
      simp
    · rw [ih, ih _ _ _ [_]]
      simp

@[simp]
theorem placesFrom_nil (index line column : Nat) : placesFrom [] index line column = [] := rfl

/-- Characters other than breaks follow each other on a line. -/
theorem placesFrom_cons {c : Char} (h : isBreak c = false) (cs : List Char)
    (index line column : Nat) :
    placesFrom (c :: cs) index line column =
      ⟨c, index, line, column⟩ :: placesFrom cs (index + 1) line (column + 1) := by
  rw [placesFrom, placeOnto, h, Bool.false_and, if_neg Bool.false_ne_true, placeOnto_eq_append]
  rfl

theorem placesFrom_newline (cs : List Char) (index line column : Nat) :
    placesFrom ('\n' :: cs) index line column =
      ⟨'\n', index, line, column⟩ :: placesFrom cs (index + 1) (line + 1) 0 := by
  have hbreak : (isBreak '\n' && !('\n' == '\r' && cs.head? == some '\n')) = true := rfl
  rw [placesFrom, placeOnto, if_pos hbreak, placeOnto_eq_append]
  rfl

/-! ## Escapes -/

/-- The last `count` digits of a number. -/
def hexDigits : (count n : Nat) → List Char
  | 0, _ => []
  | count + 1, n => hexDigitLower (n / 16 ^ count % 16) :: hexDigits count n

/-- The printed characters of ASCII, which stand for themselves; quotes and backslashes do not. -/
def isPlainInQuotes (c : Char) : Bool :=
  '!' ≤ c && c ≤ '~' && c != '"' && c != '\\'

/-- A character as it is written in double quotes. -/
def quotedChar (c : Char) : List Char :=
  if isPlainInQuotes c then [c] else '\\' :: 'U' :: hexDigits 8 c.toNat

/-- A text in double quotes. -/
def quoted (text : List Char) : List Char :=
  '"' :: (text.flatMap quotedChar ++ ['"'])

theorem hexDigit?_hexDigitLower {d : Nat} (h : d < 16) : hexDigit? (hexDigitLower d) = some d := by
  interval_cases d <;> decide

theorem isPlainInQuotes_hexDigitLower {d : Nat} (h : d < 16) :
    isPlainInQuotes (hexDigitLower d) = true := by
  interval_cases d <;> decide

theorem isPlainInQuotes_of_mem_hexDigits {count n : Nat} {c : Char} (h : c ∈ hexDigits count n) :
    isPlainInQuotes c = true := by
  induction count with
  | zero => exact nomatch h
  | succ count ih =>
    rw [hexDigits] at h
    rcases List.mem_cons.1 h with rfl | hmem
    · exact isPlainInQuotes_hexDigitLower (Nat.mod_lt _ (by decide))
    · exact ih hmem

theorem toNat_lt_pow (c : Char) : c.toNat < 16 ^ 8 := by
  have hvalid : c.toNat.isValidChar := c.valid
  rw [Nat.isValidChar] at hvalid
  omega

theorem charOfCode?_toNat (c : Char) : charOfCode? c.toNat = some c := by
  have hvalid : c.toNat.isValidChar := c.valid
  rw [charOfCode?, dif_pos hvalid]
  rfl

/-! ## Classes of characters -/

theorem beq_of_isPlainInQuotes {c d : Char} (h : isPlainInQuotes c = true)
    (hd : isPlainInQuotes d = false) : (c == d) = false := by
  rw [beq_eq_false_iff_ne]
  rintro rfl
  rw [h] at hd
  exact nomatch hd

theorem isBreak_of_isPlainInQuotes {c : Char} (h : isPlainInQuotes c = true) :
    isBreak c = false := by
  rw [isBreak, beq_of_isPlainInQuotes h (by decide), beq_of_isPlainInQuotes h (by decide),
    beq_of_isPlainInQuotes h (by decide), beq_of_isPlainInQuotes h (by decide),
    beq_of_isPlainInQuotes h (by decide)]
  rfl

theorem isBlank_of_isPlainInQuotes {c : Char} (h : isPlainInQuotes c = true) :
    isBlank c = false := by
  rw [isBlank, beq_of_isPlainInQuotes h (by decide), beq_of_isPlainInQuotes h (by decide)]
  rfl

theorem isAllowed_of_isPlainInQuotes {c : Char} (h : isPlainInQuotes c = true) :
    isAllowed c = true := by
  simp only [isPlainInQuotes, Bool.and_eq_true, decide_eq_true_eq] at h
  have hlow : 0x20 ≤ c.toNat := Nat.le_of_lt h.1.1.1
  have hhigh : c.toNat ≤ 0x7E := h.1.1.2
  simp [isAllowed, hlow, hhigh]

/-- A written character consists of characters that stand for themselves, and of backslashes. -/
theorem of_mem_quotedChar {c d : Char} (h : d ∈ quotedChar c) :
    isPlainInQuotes d = true ∨ d = '\\' := by
  rw [quotedChar] at h
  split at h
  · next hplain =>
    obtain rfl := List.mem_singleton.1 h
    exact Or.inl hplain
  -- An escape is a backslash, a letter and hexadecimal digits.
  · rcases List.mem_cons.1 h with rfl | h
    · exact Or.inr rfl
    · rcases List.mem_cons.1 h with rfl | h
      · exact Or.inl (by decide)
      · exact Or.inl (isPlainInQuotes_of_mem_hexDigits h)

/-- What stands in double quotes is written on one line, in characters that a document may hold. -/
theorem of_mem_quoted {text : List Char} {c : Char} (h : c ∈ quoted text) :
    isAllowed c = true ∧ isBreak c = false := by
  have hquote : isAllowed '"' = true ∧ isBreak '"' = false := by decide
  have hslash : isAllowed '\\' = true ∧ isBreak '\\' = false := by decide
  rcases List.mem_cons.1 h with rfl | h
  · exact hquote
  · rcases List.mem_append.1 h with h | h
    · obtain ⟨d, -, hd⟩ := List.mem_flatMap.1 h
      rcases of_mem_quotedChar hd with hplain | rfl
      · exact ⟨isAllowed_of_isPlainInQuotes hplain, isBreak_of_isPlainInQuotes hplain⟩
      · exact hslash
    · obtain rfl := List.mem_singleton.1 h
      exact hquote

/-! ## Reading -/

/-- Digits of a code point are taken up one after the other. -/
theorem doubleQuoted_hexDigits (count n value index line column : Nat) (rest text : List Char) :
    doubleQuoted (placesFrom (hexDigits (count + 1) n ++ rest) index line column)
        (.code (count + 1) value) text =
      (charOfCode? (value * 16 ^ (count + 1) + n % 16 ^ (count + 1))).bind fun c =>
        doubleQuoted (placesFrom rest (index + (count + 1)) line (column + (count + 1)))
          (.text .none) (c :: text) := by
  induction count generalizing value index column with
  | zero =>
    have hdigit : n / 16 ^ 0 % 16 < 16 := Nat.mod_lt _ (by decide)
    have hbreak := isBreak_of_isPlainInQuotes (isPlainInQuotes_hexDigitLower hdigit)
    rw [hexDigits, hexDigits, List.cons_append, placesFrom_cons hbreak, doubleQuoted]
    simp only [hexDigit?_hexDigitLower hdigit, Nat.le_refl, if_true]
    have hcode : 16 * value + n / 16 ^ 0 % 16 = value * 16 ^ (0 + 1) + n % 16 ^ (0 + 1) := by
      simp
      omega
    rw [hcode]
    cases charOfCode? (value * 16 ^ (0 + 1) + n % 16 ^ (0 + 1)) <;> rfl
  | succ count ih =>
    have hdigit : n / 16 ^ (count + 1) % 16 < 16 := Nat.mod_lt _ (by decide)
    have hbreak := isBreak_of_isPlainInQuotes (isPlainInQuotes_hexDigitLower hdigit)
    rw [hexDigits, List.cons_append, placesFrom_cons hbreak, doubleQuoted]
    have hmore : ¬count + 1 + 1 ≤ 1 := by omega
    simp only [hexDigit?_hexDigitLower hdigit, hmore, if_false]
    -- The digit that has been taken up is the first one of those that were left.
    have hcode : (16 * value + n / 16 ^ (count + 1) % 16) * 16 ^ (count + 1) +
        n % 16 ^ (count + 1) = value * 16 ^ (count + 1 + 1) + n % 16 ^ (count + 1 + 1) := by
      have hmod : n % 16 ^ (count + 1 + 1) =
          n % 16 ^ (count + 1) + 16 ^ (count + 1) * (n / 16 ^ (count + 1) % 16) :=
        Nat.mod_pow_succ
      rw [hmod]
      ring
    have hindex : index + 1 + (count + 1) = index + (count + 1 + 1) := by omega
    have hcolumn : column + 1 + (count + 1) = column + (count + 1 + 1) := by omega
    rw [Nat.add_sub_cancel, ih, hcode, hindex, hcolumn]

/-- A document does not start or end within a line. -/
theorem atDocumentMarker_of_pos {p : Place} (h : 0 < p.column) (ps : List Place) :
    atDocumentMarker (p :: ps) = false := by
  have hcolumn : (p.column == 0) = false := beq_eq_false_iff_ne.2 (by omega)
  -- A marker stands in the first column, and it takes three characters to see one.
  have hmarker : ∀ mark, atMarker mark (p :: ps) = false := by
    intro mark
    match ps with
    | [] => rfl
    | [_] => rfl
    | _ :: _ :: _ => simp [atMarker, hcolumn]
  rw [atDocumentMarker, hmarker, hmarker]
  rfl

/-- A character that is written in double quotes, not at the start of a line, is read as it was. -/
theorem doubleQuoted_quotedChar (c : Char) (index line column : Nat) (rest text : List Char)
    (hcolumn : 0 < column) :
    ∃ width, doubleQuoted (placesFrom (quotedChar c ++ rest) index line column) (.text .none) text =
      doubleQuoted (placesFrom rest (index + width) line (column + width)) (.text .none)
        (c :: text) := by
  have hmarker : ∀ d ps, atDocumentMarker (⟨d, index, line, column⟩ :: ps) = false :=
    fun _ ps => atDocumentMarker_of_pos hcolumn ps
  rw [quotedChar]
  split
  · next hplain =>
    refine ⟨1, ?_⟩
    have hbreak := isBreak_of_isPlainInQuotes hplain
    have hblank := isBlank_of_isPlainInQuotes hplain
    have hquote : (c == '"') = false := beq_of_isPlainInQuotes hplain (by decide)
    have hslash : (c == '\\') = false := beq_of_isPlainInQuotes hplain (by decide)
    rw [List.singleton_append, placesFrom_cons hbreak, doubleQuoted]
    simp [hmarker, hbreak, hblank, hquote, hslash, Gap.fold]
  -- Ten characters spell the escape: a backslash, a letter and eight digits.
  · refine ⟨10, ?_⟩
    have hcode : 0 * 16 ^ 8 + c.toNat % 16 ^ 8 = c.toNat := by
      rw [Nat.mod_eq_of_lt (toNat_lt_pow c)]
      omega
    have hdigits := doubleQuoted_hexDigits 7 c.toNat 0 (index + 2) line (column + 2) rest text
    rw [hcode, charOfCode?_toNat] at hdigits
    rw [List.cons_append, List.cons_append, placesFrom_cons (by decide),
      placesFrom_cons (by decide), doubleQuoted, doubleQuoted]
    simp [hmarker, isBlank, isBreak, Gap.fold]
    exact hdigits

/-- A text that is written in double quotes is read as it was, whatever follows. -/
theorem doubleQuoted_append (written : List Char) (index line column : Nat)
    (rest text : List Char) (hcolumn : 0 < column) :
    ∃ width, doubleQuoted (placesFrom (written.flatMap quotedChar ++ '"' :: rest) index line column)
        (.text .none) text =
      some (written.reverse ++ text, placesFrom rest (index + width) line (column + width)) := by
  induction written generalizing index column text with
  -- The closing quote takes one column, and nothing is left to fold.
  | nil =>
    refine ⟨1, ?_⟩
    have hmarker : ∀ ps, atDocumentMarker (⟨'"', index, line, column⟩ :: ps) = false :=
      fun ps => atDocumentMarker_of_pos hcolumn ps
    rw [List.flatMap_nil, List.nil_append, placesFrom_cons (by decide), doubleQuoted]
    simp [hmarker, Gap.fold]
  | cons c written ih =>
    -- One written character takes a width of its own, so the widths add up.
    obtain ⟨width, hchar⟩ := doubleQuoted_quotedChar c index line column
      (written.flatMap quotedChar ++ '"' :: rest) text hcolumn
    obtain ⟨more, hwritten⟩ := ih (index + width) (column + width) (c :: text) (by omega)
    refine ⟨width + more, ?_⟩
    rw [List.flatMap_cons, List.append_assoc, hchar, hwritten]
    simp [Nat.add_assoc]

end DepTriage.Yaml
