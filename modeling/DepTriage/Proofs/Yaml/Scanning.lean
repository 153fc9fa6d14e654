import DepTriage.Proofs.Yaml.Quoted
import DepTriage.Yaml.Scanner

/-!
# Scanning block mappings

What one token does to a scanner between the tokens of a block mapping: each lemma scans what is
written in front, whatever follows, and gives the scanner behind it.

## Key results

- `run_space`, `run_newline`: gaps only move the scanner
- `run_mark`, `run_firstMark`, `run_colon`: keys that are marked as such, and their values
- `run_word`, `run_keyColon`, `run_firstKeyColon`: keys that are only seen by their colon
- `run_quoted`, `run_braces`: nodes
- `run_nil`: the end of the text
-/

namespace DepTriage.Yaml

theorem atGap_placesFrom (cs : List Char) (index line column : Nat) :
    atGap (placesFrom cs index line column) = cs.head?.all isSpace := by
  cases cs with
  | nil => rfl
  | cons c cs =>
    rw [placesFrom, placeOnto]
    split <;> rw [placeOnto_eq_append] <;> rfl

theorem atMarker_of_ne {mark : Char} {p : Place} (h : p.char ≠ mark) (ps : List Place) :
    atMarker mark (p :: ps) = false := by
  match ps with
  | [] => rfl
  | [_] => rfl
  | _ :: _ :: _ => simp [atMarker, h]

/-! ## Letters -/

theorem ne_of_isAlpha {c d : Char} (h : c.isAlpha = true) (hd : d.isAlpha = false) : c ≠ d := by
  rintro rfl
  rw [h] at hd
  exact nomatch hd

theorem isBlank_of_isAlpha {c : Char} (h : c.isAlpha = true) : isBlank c = false := by
  have hne : ∀ d : Char, d.isAlpha = false → c ≠ d := fun d => ne_of_isAlpha h
  simp [isBlank, hne]

theorem isBreak_of_isAlpha {c : Char} (h : c.isAlpha = true) : isBreak c = false := by
  have hne : ∀ d : Char, d.isAlpha = false → c ≠ d := fun d => ne_of_isAlpha h
  have hcommon : c ≠ '\r' ∧ c ≠ '\n' := ⟨hne _ (by decide), hne _ (by decide)⟩
  have hother : c ≠ '\u0085' ∧ c ≠ '\u2028' ∧ c ≠ '\u2029' :=
    ⟨hne _ (by decide), hne _ (by decide), hne _ (by decide)⟩
  simp [isBreak, hcommon, hother]

/-- A word of letters is read up to the colon behind it. -/
theorem plainText_word {level index line column : Nat} {rest : List Char} (word : List Char)
    (hword : word.all Char.isAlpha) (hgap : rest.head?.all isSpace) (text : List Char) :
    plainText false level (placesFrom (word ++ ':' :: rest) index line column) .none text =
      some (word.reverse ++ text, false,
        placesFrom (':' :: rest) (index + word.length) line (column + word.length)) := by
  -- By induction on the word, its letters going one by one onto the text read so far.
  induction word generalizing index column text with
  | nil =>
    -- The colon before a gap ends the scalar.
    have hcolon : isBlank ':' = false ∧ isBreak ':' = false := by decide
    rw [List.nil_append, placesFrom_cons hcolon.2, plainText]
    simp [hcolon, atGap_placesFrom, hgap, Gap.isNone, Gap.hasBreak, placesFrom_cons]
  | cons c word ih =>
    rw [List.all_cons, Bool.and_eq_true] at hword
    obtain ⟨hc, hword⟩ := hword
    -- A letter is neither a blank nor a break, so the scanner takes it and goes on.
    rw [List.cons_append, placesFrom_cons (isBreak_of_isAlpha hc), plainText]
    simp [isBlank_of_isAlpha hc, isBreak_of_isAlpha hc, ne_of_isAlpha hc, Gap.isNone, Gap.fold,
      ih hword, Nat.add_assoc, Nat.add_comm 1]

namespace Scanner

theorem isIndicator_of_isAlpha {c : Char} (h : c.isAlpha = true) : isIndicator c = false := by
  rw [isIndicator, String.contains_char_eq, decide_eq_false_iff_not]
  intro hc
  have hmarks : ("-?:,[]\x7b\x7d#&*!|>'\"%@`".toList.all fun d => !d.isAlpha) = true := by decide
  simpa [h] using List.all_eq_true.1 hmarks c hc

/-- A letter starts a plain scalar. -/
theorem fetch?_eq_addPlain? {s : Scanner} {p : Place} {ps : List Place} (hs : s.rest = p :: ps)
    (h : p.char.isAlpha = true) : s.fetch? p ps = s.addPlain? p := by
  have hne : ∀ d : Char, d.isAlpha = false → p.char ≠ d := fun d => ne_of_isAlpha h
  have hplain : startsPlain s.inFlow p ps = true := by
    simp [startsPlain, isSpace, isBlank_of_isAlpha h, isBreak_of_isAlpha h,
      isIndicator_of_isAlpha h]
  rw [fetch?, hs, atMarker_of_ne (hne '-' (by decide)), atMarker_of_ne (hne '.' (by decide))]
  simp [hne, hplain]

/-! ## Scanners between tokens -/

/-- A scanner outside flow collections. -/
def between (rest : List Place) (tokens : List Token) (columns : List Nat)
    (candidate : Option Candidate) (keyAllowed : Bool) : Scanner :=
  { rest, tokens, count := tokens.length, columns, candidate, keyAllowed }

/-- A candidate that was no key before `line`, and need not have been one. -/
def IsSpent (candidate : Option Candidate) (line : Nat) : Prop :=
  ∀ c ∈ candidate, c.place.line < line ∧ c.required = false

variable {bound index line column outerColumn : Nat} {rest : List Char} {tokens : List Token}
  {columns : List Nat} {candidate : Option Candidate} {keyAllowed : Bool}

theorem isSpent_none : IsSpent none line := nofun

theorem dropStale?_between {p : Place} {ps : List Place} (h : IsSpent candidate p.line) :
    (between ps tokens columns candidate keyAllowed).dropStale? p =
      some (between ps tokens columns none keyAllowed) := by
  cases candidate with
  | none => rfl
  | some c =>
    obtain ⟨hline, hrequired⟩ := h c rfl
    have hstale : c.isStale p = true := by simp [Candidate.isStale, hline]
    simp [dropStale?, between, hstale, hrequired]

theorem unindent_between {ps : List Place} (h : columns.head?.all (· ≤ column)) :
    (between ps tokens columns candidate keyAllowed).unindent (some column) =
      between ps tokens columns candidate keyAllowed := by
  cases columns with
  | nil => rfl
  | cons outerColumn columns =>
    have hcolumn : outerColumn ≤ column := by simpa using h
    simp [unindent, between, inFlow, closeOnto, Nat.not_lt.2 hcolumn]

theorem closeOnto_none (columns : List Nat) (tokens : List Token) (count : Nat) :
    closeOnto none columns tokens count =
      ([], List.replicate columns.length .blockEnd ++ tokens, count + columns.length) := by
  induction columns generalizing tokens count with
  | nil => rfl
  | cons c columns ih => simp [closeOnto, ih, List.replicate_succ', Nat.add_assoc, Nat.add_comm 1]

/-! ## Gaps -/

theorem run_congr {s t : Scanner} (h : s.toNextToken = t.toNextToken) :
    run (bound + 1) s = run (bound + 1) t := by
  rw [run, run, h]

theorem run_space :
    run (bound + 1) (between (placesFrom (' ' :: rest) index line column) tokens columns candidate
        keyAllowed) =
      run (bound + 1) (between (placesFrom rest (index + 1) line (column + 1)) tokens columns
        candidate keyAllowed) := by
  apply run_congr
  rw [placesFrom_cons (by decide)]
  rfl

/-- Behind a break a key may start. -/
theorem run_newline :
    run (bound + 1) (between (placesFrom ('\n' :: rest) index line column) tokens columns candidate
        keyAllowed) =
      run (bound + 1) (between (placesFrom rest (index + 1) (line + 1) 0) tokens columns
        candidate true) := by
  apply run_congr
  rw [placesFrom_newline]
  cases keyAllowed <;> rfl

/-! ## Tokens -/

/-- A character that belongs to no gap is in front of a token, and it ends no collection if it does
not stand to the left of it. -/
theorem run_token {c : Char} (hspace : isSpace c = false) (hcomment : c ≠ '#')
    (h : IsSpent candidate line) (hcolumn : columns.head?.all (· ≤ column)) :
    run (bound + 1) (between (placesFrom (c :: rest) index line column) tokens columns candidate
        keyAllowed) =
      (fetch? (between (placesFrom (c :: rest) index line column) tokens columns none keyAllowed)
        ⟨c, index, line, column⟩ (placesFrom rest (index + 1) line (column + 1))).bind
          (run bound) := by
  -- Without a gap or a comment to skip, the next token starts right here.
  rw [isSpace, isBlank, Bool.or_eq_false_iff, Bool.or_eq_false_iff] at hspace
  obtain ⟨⟨hspace, htab⟩, hbreak⟩ := hspace
  have hcomment : (c == '#') = false := beq_eq_false_iff_ne.2 hcomment
  rw [placesFrom_cons hbreak, run]
  simp only [toNextToken, between, skipGap, hspace, htab, hbreak, hcomment, Bool.false_and,
    Bool.or_self, if_false, Bool.false_eq_true]
  show (dropStale? (between _ tokens columns candidate keyAllowed) _ >>= fun s =>
    (s.unindent _).fetch? _ _ >>= run bound) = _
  -- Neither a stale key nor an open block ends before the token.
  rw [dropStale?_between h]
  show (fetch? (unindent (between _ _ _ _ _) _) _ _ >>= run bound) = _
  rw [unindent_between hcolumn]
  rfl

/-- A question mark starts an entry of the mapping in whose column it stands. -/
theorem run_mark (hgap : rest.head?.all isSpace) (h : IsSpent candidate line) :
    run (bound + 1) (between (placesFrom ('?' :: rest) index line column) tokens
        (column :: columns) candidate true) =
      run bound (between (placesFrom rest (index + 1) line (column + 1)) (.key :: tokens)
        (column :: columns) none true) := by
  rw [run_token (by decide) (by decide) h (by simp), placesFrom_cons (by decide)]
  simp [fetch?, atMarker_of_ne, atGap_placesFrom, hgap, addKey?, between, indent, inFlow, level,
    dropCandidate?, push]

/-- A question mark that stands deeper opens a mapping. -/
theorem run_firstMark (hgap : rest.head?.all isSpace) (h : IsSpent candidate line)
    (hcolumn : outerColumn < column) :
    run (bound + 1) (between (placesFrom ('?' :: rest) index line column) tokens
        (outerColumn :: columns) candidate true) =
      run bound (between (placesFrom rest (index + 1) line (column + 1))
        (.key :: .blockMapping :: tokens) (column :: outerColumn :: columns) none true) := by
  have hlevel : ¬column < outerColumn + 1 := by omega
  have houter : (outerColumn :: columns).head?.all (· ≤ column) := by simpa using hcolumn.le
  rw [run_token (by decide) (by decide) h houter, placesFrom_cons (by decide)]
  simp [fetch?, atMarker_of_ne, atGap_placesFrom, hgap, addKey?, between, indent, inFlow, level,
    dropCandidate?, push, hlevel, insertAt, insertBefore]

/-- A colon on a line of its own starts the value of a marked key. -/
theorem run_colon (hgap : rest.head?.all isSpace) (h : IsSpent candidate line) :
    run (bound + 1) (between (placesFrom (':' :: rest) index line column) tokens
        (column :: columns) candidate true) =
      run bound (between (placesFrom rest (index + 1) line (column + 1)) (.value :: tokens)
        (column :: columns) none true) := by
  rw [run_token (by decide) (by decide) h (by simp), placesFrom_cons (by decide)]
  simp [fetch?, atMarker_of_ne, atGap_placesFrom, hgap, addValue?, between, indent, inFlow, level,
    push]

/-- A word in front of a colon becomes a candidate, which has to be a key in the column of its
mapping. -/
theorem run_word {c : Char} {word : List Char} (hword : (c :: word).all Char.isAlpha)
    (hgap : rest.head?.all isSpace) (h : IsSpent candidate line)
    (hcolumn : columns.head?.all (· ≤ column)) :
    run (bound + 1) (between (placesFrom (c :: (word ++ ':' :: rest)) index line column) tokens
        columns candidate true) =
      run bound (between
        (placesFrom (':' :: rest) (index + (word.length + 1)) line (column + (word.length + 1)))
        (.scalar true (String.ofList (c :: word)) :: tokens) columns
        (some ⟨tokens.length, ⟨c, index, line, column⟩, decide (columns.head? = some column)⟩)
        false) := by
  -- The word is one plain scalar, up to the colon behind it.
  have hc : c.isAlpha = true := List.all_eq_true.1 hword c List.mem_cons_self
  have hbreak := isBreak_of_isAlpha hc
  have hspace : isSpace c = false := by rw [isSpace, isBlank_of_isAlpha hc, hbreak, Bool.or_self]
  have hcomment : c ≠ '#' := ne_of_isAlpha hc (by decide)
  have hrest : (between (placesFrom (c :: (word ++ ':' :: rest)) index line column) tokens columns
      none true).rest = _ := placesFrom_cons hbreak _ _ _ _
  have hplain : ∀ level, plainText false level
      (placesFrom (c :: word ++ ':' :: rest) index line column) .none [] = _ :=
    fun _ => plainText_word (c :: word) hword hgap []
  -- What remains is the bookkeeping of the possible key, which depends on the block it stands in.
  rw [run_token hspace hcomment h hcolumn, fetch?_eq_addPlain? hrest hc, addPlain?]
  cases columns <;>
    simp [saveCandidate?, between, dropCandidate?, inFlow, level, push] at hplain ⊢ <;>
    simp [hplain]

/-- A colon makes a key of the candidate before it. -/
theorem run_keyColon {c : Char} {first : Nat} {required : Bool} {token : Token}
    (hgap : rest.head?.all isSpace) (hindex : index ≤ first + 1024)
    (hcolumn : outerColumn ≤ column) :
    run (bound + 1) (between (placesFrom (':' :: rest) index line column) (token :: tokens)
        (outerColumn :: columns)
        (some ⟨tokens.length, ⟨c, first, line, outerColumn⟩, required⟩) false) =
      run bound (between (placesFrom rest (index + 1) line (column + 1))
        (.value :: token :: .key :: tokens) (outerColumn :: columns) none false) := by
  have hfresh : ¬first + 1024 < index := Nat.not_lt.2 hindex
  have hinside : ¬column < outerColumn := Nat.not_lt.2 hcolumn
  rw [placesFrom_cons (by decide)]
  simp [run, toNextToken, skipGap, isBreak, inFlow, dropStale?, Candidate.isStale, hfresh, unindent,
    closeOnto, hinside, fetch?, atMarker_of_ne, atGap_placesFrom, hgap, addValue?, insertAt,
    insertBefore, indent, level, push, between]

/-- The first key opens the mapping. -/
theorem run_firstKeyColon {c : Char} {first firstColumn : Nat} {required : Bool} {token : Token}
    (hgap : rest.head?.all isSpace) (hindex : index ≤ first + 1024) :
    run (bound + 1) (between (placesFrom (':' :: rest) index line column) (token :: tokens) []
        (some ⟨tokens.length, ⟨c, first, line, firstColumn⟩, required⟩) false) =
      run bound (between (placesFrom rest (index + 1) line (column + 1))
        (.value :: token :: .key :: .blockMapping :: tokens) [firstColumn] none false) := by
  have hfresh : ¬first + 1024 < index := Nat.not_lt.2 hindex
  have hdepth : tokens.length + 1 + 1 - tokens.length = 2 := by omega
  rw [placesFrom_cons (by decide)]
  simp [run, toNextToken, skipGap, isBreak, inFlow, dropStale?, Candidate.isStale, hfresh, unindent,
    closeOnto, fetch?, atMarker_of_ne, atGap_placesFrom, hgap, addValue?, insertAt, insertBefore,
    hdepth, indent, level, push, between]

/-- A text in double quotes that stands deeper than its mapping is a scalar. Its width has no
meaning, so that what follows may be scanned from any place on the line. -/
theorem run_quoted {result : Option (List Token)} (text : List Char) (h : IsSpent candidate line)
    (hcolumn : outerColumn < column)
    (hrest : ∀ index column last, IsSpent last (line + 1) →
      run bound (between (placesFrom rest index line column)
        (.scalar false (String.ofList text) :: tokens) (outerColumn :: columns) last false) =
          result) :
    run (bound + 1) (between (placesFrom (quoted text ++ rest) index line column) tokens
      (outerColumn :: columns) candidate keyAllowed) = result := by
  obtain ⟨width, hread⟩ := doubleQuoted_append text (index + 1) line (column + 1) rest []
    (Nat.succ_pos _)
  have hquoted : quoted text ++ rest = '"' :: (text.flatMap quotedChar ++ '"' :: rest) := by
    simp [quoted]
  have hlevel : outerColumn ≠ column := Nat.ne_of_lt hcolumn
  have houter : (outerColumn :: columns).head?.all (· ≤ column) := by simpa using hcolumn.le
  -- Where a key may start, the scalar could be one, but it does not have to.
  let last : Option Candidate :=
    if keyAllowed then some ⟨tokens.length, ⟨'"', index, line, column⟩, false⟩ else none
  have hlast : IsSpent last (line + 1) := by
    intro c hc
    cases keyAllowed with
    | false => exact nomatch hc
    | true =>
      obtain rfl := Option.some.inj hc
      exact ⟨Nat.lt_succ_self _, rfl⟩
  rw [← hrest (index + 1 + width) (column + 1 + width) last hlast, hquoted,
    run_token (by decide) (by decide) h houter, placesFrom_cons (by decide)]
  cases keyAllowed <;>
    simp [fetch?, atMarker_of_ne, addNode?, hread, quotedToken, saveCandidate?, dropCandidate?,
      between, inFlow, level, hlevel, push, last]

/-- A pair of braces is a mapping without entries. -/
theorem run_braces {result : Option (List Token)} (h : IsSpent candidate line)
    (hcolumn : outerColumn < column)
    (hrest : ∀ index column last, IsSpent last (line + 1) →
      run bound (between (placesFrom rest index line column)
        (.flowMappingEnd :: .flowMapping :: tokens) (outerColumn :: columns) last false) =
          result) :
    run (bound + 2) (between (placesFrom ('\x7b' :: '\x7d' :: rest) index line column) tokens
      (outerColumn :: columns) candidate true) = result := by
  have hlevel : outerColumn ≠ column := Nat.ne_of_lt hcolumn
  have houter : (outerColumn :: columns).head?.all (· ≤ column) := by simpa using hcolumn.le
  let last : Option Candidate := some ⟨tokens.length, ⟨'\x7b', index, line, column⟩, false⟩
  have hlast : IsSpent last (line + 1) := by
    intro c hc
    obtain rfl := Option.some.inj hc
    exact ⟨Nat.lt_succ_self _, rfl⟩
  rw [← hrest (index + 2) (column + 2) last hlast, run_token (by decide) (by decide) h houter,
    placesFrom_cons (by decide), placesFrom_cons (by decide)]
  -- The scanner behind the first brace is inside a flow collection, and so not `between` tokens.
  simp [fetch?, atMarker_of_ne, openFlow?, saveCandidate?, dropCandidate?, between, inFlow, level,
    hlevel, push, run, toNextToken, skipGap, isBreak, dropStale?, Candidate.isStale, unindent,
    closeFlow?, last]

/-- At the end of a text, its block collections end. -/
theorem run_nil (h : IsSpent candidate line) :
    run (bound + 1) (between [] tokens columns candidate keyAllowed) =
      some (tokens.reverse ++ List.replicate columns.length .blockEnd) := by
  have hcandidate : candidate.any (·.required) = false := by
    cases candidate with
    | none => rfl
    | some c => exact (h c rfl).2
  simp [run, toNextToken, between, skipGap, unindent, inFlow, closeOnto_none, dropCandidate?,
    hcandidate]

end Scanner

end DepTriage.Yaml
