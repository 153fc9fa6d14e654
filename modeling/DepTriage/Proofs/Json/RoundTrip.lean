import DepTriage.Json.Printer
import DepTriage.Json.Reader

/-!
# Written JSON reads back

A value is printed over many lines and read with fuel for every character. Reading consumes exactly
what was printed, whatever follows it, so that the values of a collection read back one after the
other.

## Key results

- `readString?_quoted`: a string reads back up to its closing quote, whatever its characters.
- `readNumber?_toDigits`: a natural number reads back up to the end of its digits.
- `IsPlain.readsBack`: so does every value without fractions, signs and broken text.
- `parse?_toText`: the text of such a value is read as the value.
-/

namespace DepTriage.Json

open DepTriage.Text

/-! ## Strings -/

/-- A string so far, without anything that is due or broken. -/
def Spelling.sound (text : List Char) : Spelling :=
  { text := text.reverse }

theorem Spelling.push_sound (text : List Char) (c : Char) :
    (sound text).push c = sound (text ++ [c]) := by
  simp [sound, push, settle]

theorem Spelling.text?_sound (text : List Char) :
    (sound text).text? = some (String.ofList text) := by
  simp [sound, text?, settle]

/-- A code unit that is neither half of a pair is a character. -/
theorem Spelling.pushUnit_of_lt {s : Spelling} {n : Nat} (h : n < 0xD800) :
    s.pushUnit n = s.push (Char.ofNat n) := by
  rw [pushUnit, if_neg (by omega), if_neg (by omega)]

/-- A control character is written as four digits that stand for it. -/
theorem codeUnit?_hexLower {n : Nat} (h : n < 0x20) :
    hexLower 4 n = ['0', '0', (n / 16).digitChar, (n % 16).digitChar] ∧
      codeUnit? '0' '0' (n / 16).digitChar (n % 16).digitChar = some n := by
  have hunits : ∀ n < 0x20, hexLower 4 n = ['0', '0', (n / 16).digitChar, (n % 16).digitChar] ∧
      codeUnit? '0' '0' (n / 16).digitChar (n % 16).digitChar = some n := by decide
  exact hunits n h

/-- A character is read as it was written. -/
theorem readString?_escape (c : Char) (cs text : List Char) :
    readString? (escape c ++ cs) (.sound text) = readString? cs (.sound (text ++ [c])) := by
  rw [← Spelling.push_sound, escape.eq_def]
  split
  -- The characters with an escape of one letter.
  iterate 7 simp [readString?, escapedChar?]
  · next hquote hslash _ _ _ _ _ =>
    split
    · next hcontrol =>
      obtain ⟨hdigits, hunit⟩ := codeUnit?_hexLower hcontrol
      rw [hdigits]
      simp only [List.cons_append, List.nil_append, readString?, hunit]
      rw [Spelling.pushUnit_of_lt (by omega), Char.ofNat_toNat]
    · next hprinted =>
      rw [List.singleton_append, readString?]
      · rw [if_neg hprinted]
      · exact hquote
      · rintro _ _ _ _ _ rfl
        exact fun _ => hslash rfl
      · rintro _ _ rfl
        exact fun _ => hslash rfl

/-- A string is read as it was written, up to its closing quote. -/
theorem readString?_flatMap_escape (text rest acc : List Char) :
    readString? (text.flatMap escape ++ '"' :: rest) (.sound acc)
      = some (some (String.ofList (acc ++ text)), rest) := by
  induction text generalizing acc with
  | nil => simp [readString?, Spelling.text?_sound]
  | cons c cs ih =>
    rw [List.flatMap_cons, List.append_assoc, readString?_escape, ih]
    simp

theorem readString?_quoted (text : String) (rest : List Char) :
    readString? (text.toList.flatMap escape ++ '"' :: rest) {} = some (some text, rest) := by
  simpa [Spelling.sound] using readString?_flatMap_escape text.toList rest []

/-! ## Numbers -/

/-- What follows a number ends it: none of the characters that could go on with it. -/
def EndsNumber (rest : List Char) : Prop :=
  ∀ c ∈ rest.head?, c.isDigit = false ∧ c ≠ '.' ∧ c ≠ 'e' ∧ c ≠ 'E'

theorem EndsNumber.nil : EndsNumber [] := nofun

theorem EndsNumber.cons {c : Char} (rest : List Char)
    (h : c.isDigit = false ∧ c ≠ '.' ∧ c ≠ 'e' ∧ c ≠ 'E') : EndsNumber (c :: rest) := by
  rintro _ ⟨⟩
  exact h

/-- Digits are taken up to the end of a number. -/
theorem takeDigits_append {digits rest : List Char} (hdigits : ∀ c ∈ digits, c.isDigit)
    (hrest : ∀ c ∈ rest.head?, c.isDigit = false) (value count : Nat) :
    Binary64.takeDigits (digits ++ rest) value count
      = (Nat.ofDigitChars 10 digits value, count + digits.length, rest) := by
  -- By induction on the digits, of which what follows holds none.
  induction digits generalizing value count with
  | nil =>
    cases rest with
    | nil => rfl
    | cons c rest => simp [Binary64.takeDigits, hrest c rfl, Nat.ofDigitChars]
  | cons c cs ih =>
    obtain ⟨hc, hcs⟩ := List.forall_mem_cons.1 hdigits
    rw [List.cons_append, Binary64.takeDigits, if_pos hc, ih hcs, Nat.ofDigitChars_cons,
      List.length_cons]
    congr 2
    omega

/-- No number but zero is written with a zero in front. -/
theorem head?_toDigits_append_ne {n : Nat} (h : 0 < n) (rest : List Char) :
    (Nat.toDigits 10 n ++ rest).head? ≠ some '0' := by
  induction n using Nat.strongRecOn generalizing rest with
  | ind n ih =>
    obtain hn | hn := Nat.lt_or_ge n 10
    · rw [Nat.toDigits_of_lt_base hn]
      simp
      omega
    · rw [Nat.toDigits_of_base_le (by omega) hn, List.append_assoc]
      exact ih (n / 10) (by omega) (by omega) _

theorem readNumber?_toDigits (n : Nat) {rest : List Char} (hrest : EndsNumber rest) :
    readNumber? false (Nat.toDigits 10 n ++ rest) = some (.natural n, rest) := by
  have htake : Binary64.takeDigits (Nat.toDigits 10 n ++ rest) 0 0
      = (n, (Nat.toDigits 10 n).length, rest) := by
    rw [takeDigits_append (fun c hc => Nat.isDigit_of_mem_toDigits (by omega) (by omega) hc)
      fun c hc => (hrest c hc).1, Nat.ofDigitChars_ten_toDigits, Nat.zero_add]
  have hsome : (Nat.toDigits 10 n).length ≠ 0 := by simp [Nat.toDigits_ne_nil]
  -- A zero in front of other digits would not be read, but no number is written with one.
  have hzero : 1 < (Nat.toDigits 10 n).length →
      (Nat.toDigits 10 n ++ rest).head? ≠ some '0' := fun hlong => by
    refine head?_toDigits_append_ne (Nat.pos_of_ne_zero ?_) rest
    rintro rfl
    simp at hlong
  have hfirst : ((Nat.toDigits 10 n).length = 0 || (1 < (Nat.toDigits 10 n).length
      && (Nat.toDigits 10 n ++ rest).head? == some '0')) = false := by
    simpa [hsome] using hzero
  unfold readNumber?
  simp only [htake, hfirst, Bool.false_eq_true, if_false]
  cases rest with
  | nil => rfl
  | cons c rest =>
    obtain ⟨-, hpoint, he, hE⟩ := hrest c rfl
    simp [hpoint, he, hE, readNumber?.plainNumber]

/-! ## Blanks -/

theorem dropBlanks_newline (depth : Nat) (cs : List Char) :
    dropBlanks (newline depth ++ cs) = dropBlanks cs := by
  simp only [dropBlanks, newline, List.cons_append]
  rw [List.dropWhile_cons_of_pos (by decide), List.dropWhile_append_of_pos]
  simp [isBlank]

theorem dropBlanks_space (cs : List Char) : dropBlanks (' ' :: cs) = dropBlanks cs :=
  rfl

theorem dropBlanks_cons {c : Char} (h : isBlank c = false) (cs : List Char) :
    dropBlanks (c :: cs) = c :: cs :=
  List.dropWhile_cons_of_neg (by simp [h])

theorem dropBlanks_quoted (text : String) (cs : List Char) :
    dropBlanks (quoted text ++ cs) = quoted text ++ cs :=
  dropBlanks_cons (by decide) _

/-- The blanks in front of a value do not matter. -/
theorem readValue?_congr {cs cs' : List Char} (h : dropBlanks cs = dropBlanks cs') (fuel : Nat) :
    readValue? fuel cs = readValue? fuel cs' := by
  cases fuel with
  | zero => rfl
  | succ fuel => rw [readValue?, readValue?, h]

theorem readItems?_newline (fuel depth : Nat) (cs : List Char) (items : List Json) :
    readItems? fuel (newline depth ++ cs) items = readItems? fuel cs items := by
  cases fuel with
  | zero => rfl
  | succ fuel => rw [readItems?, readItems?, readValue?_congr (dropBlanks_newline depth cs)]

theorem readEntries?_newline (fuel depth : Nat) (cs : List Char)
    (entries : List (Option String × Json)) :
    readEntries? fuel (newline depth ++ cs) entries = readEntries? fuel cs entries := by
  cases fuel with
  | zero => rfl
  | succ fuel => rw [readEntries?, readEntries?, dropBlanks_newline]

theorem EndsNumber.newline (depth : Nat) (rest : List Char) :
    EndsNumber (newline depth ++ rest) :=
  .cons _ (by decide)

/-! ## Values -/

/-- A value whose numbers are all written with digits alone, and whose texts are all sound. -/
inductive IsPlain : Json → Prop where
  | null : IsPlain null
  | bool (value : Bool) : IsPlain (bool value)
  | natural (value : Nat) : IsPlain (natural value)
  | string (text : String) : IsPlain (string text)
  | array {items : List Json} (h : ∀ j ∈ items, IsPlain j) : IsPlain (array items)
  | object {entries : List (String × Json)} (h : ∀ e ∈ entries, IsPlain e.2) :
    IsPlain (object entries)

/-- The text of a value reads back as the value, wherever it stands. -/
def ReadsBack (j : Json) : Prop :=
  ∀ depth fuel rest, (print depth j).length ≤ fuel → EndsNumber rest →
    readValue? fuel (print depth j ++ rest) = some (j, rest)

theorem isBlank_of_isDigit {c : Char} (h : c.isDigit) : isBlank c = false := by
  simp only [isBlank, Bool.or_eq_false_iff, beq_eq_false_iff_ne]
  refine ⟨⟨⟨?_, ?_⟩, ?_⟩, ?_⟩ <;> (rintro rfl; exact absurd h (by decide))

theorem print_natural (depth n : Nat) : print depth (natural n) = Nat.toDigits 10 n := by
  rw [print, Nat.toString_eq_ofList_toDigits, String.toList_ofList]

/-- A number starts with a digit. -/
theorem exists_print_natural_eq_cons (depth n : Nat) :
    ∃ c cs, print depth (natural n) = c :: cs ∧ c.isDigit := by
  obtain ⟨c, cs, hdigits⟩ := List.exists_cons_of_ne_nil (Nat.toDigits_ne_nil (n := n) (b := 10))
  refine ⟨c, cs, by rw [print_natural, hdigits], ?_⟩
  exact Nat.isDigit_of_mem_toDigits (by decide) (by decide) (hdigits ▸ List.mem_cons_self)

/-- The text of a value starts with a character that is no blank and closes no array. -/
theorem IsPlain.exists_print_eq_cons {j : Json} (h : j.IsPlain) (depth : Nat) :
    ∃ c cs, print depth j = c :: cs ∧ isBlank c = false ∧ c ≠ ']' := by
  -- No printed value starts with a blank or closes an array.
  cases h with
  | null => exact ⟨'n', _, rfl, by decide⟩
  | bool value =>
    cases value with
    | false => exact ⟨'f', _, rfl, by decide⟩
    | true => exact ⟨'t', _, rfl, by decide⟩
  | natural n =>
    obtain ⟨c, cs, hprint, hdigit⟩ := exists_print_natural_eq_cons depth n
    refine ⟨c, cs, hprint, isBlank_of_isDigit hdigit, ?_⟩
    rintro rfl
    exact absurd hdigit (by decide)
  | string text => exact ⟨'"', _, by rw [print, quoted], by decide⟩
  | @array items h =>
    cases items with
    | nil => exact ⟨'[', _, by rw [print], by decide⟩
    | cons item items => exact ⟨'[', _, by rw [print], by decide⟩
  | @object entries h =>
    cases entries with
    | nil => exact ⟨'\x7b', _, by rw [print], by decide⟩
    | cons e entries => exact ⟨'\x7b', _, by rw [print], by decide⟩

/-- A value reads back if it does with fuel for a step, for which its text pays. -/
theorem IsPlain.readsBack_of_succ {j : Json} (hj : j.IsPlain)
    (h : ∀ depth fuel rest, (print depth j).length ≤ fuel + 1 → EndsNumber rest →
      readValue? (fuel + 1) (print depth j ++ rest) = some (j, rest)) : j.ReadsBack := by
  intro depth fuel rest hfuel hrest
  obtain ⟨c, cs, hprint, -⟩ := hj.exists_print_eq_cons depth
  cases fuel with
  | zero => simp [hprint] at hfuel
  | succ fuel => exact h depth fuel rest hfuel hrest

/-- The items of an array read back, up to its closing bracket. -/
theorem readItems?_print {item : Json} {items : List Json} (hitem : item.ReadsBack)
    (hitems : ∀ j ∈ items, j.ReadsBack) (depth outer : Nat) (rest : List Char)
    (before : List Json) (fuel : Nat)
    (hfuel : (print depth item).length + (printItems depth items).length ≤ fuel) :
    readItems? (fuel + 1)
        (print depth item ++ (printItems depth items ++ (newline outer ++ ']' :: rest))) before
      = some (before.reverse ++ item :: items, rest) := by
  -- The induction is on the items after the first one, each of which follows a comma.
  induction items generalizing item before fuel with
  | nil =>
    rw [readItems?, printItems, List.nil_append,
      hitem depth fuel _ (by omega) (.newline outer _)]
    simp [dropBlanks_newline, dropBlanks_cons (c := ']') (by decide)]
  | cons next items ih =>
    simp only [printItems, List.length_cons, List.length_append] at hfuel
    -- The comma pays for the step to the next item.
    obtain ⟨fuel, rfl⟩ : ∃ n, fuel = n + 1 := ⟨fuel - 1, by omega⟩
    rw [readItems?, printItems, List.cons_append,
      hitem depth (fuel + 1) _ (by omega) (.cons _ (by decide))]
    simp only [dropBlanks_cons (c := ',') (by decide), List.append_assoc]
    obtain ⟨hnext, hrest⟩ := List.forall_mem_cons.1 hitems
    rw [readItems?_newline, ih hnext hrest _ fuel (by omega)]
    simp

/-- An entry is read up to what follows its value. -/
theorem readEntries?_entry (key : String) {value : Json} (h : value.ReadsBack) {depth fuel : Nat}
    (hfuel : (print depth value).length ≤ fuel) {tail : List Char} (htail : EndsNumber tail)
    (before : List (Option String × Json)) :
    readEntries? (fuel + 1) (quoted key ++ (':' :: ' ' :: (print depth value ++ tail))) before
      = match dropBlanks tail with
        | ',' :: rest => readEntries? fuel rest ((some key, value) :: before)
        | '\x7d' :: rest => some (((some key, value) :: before).reverse, rest)
        | _ => none := by
  have hvalue : readValue? fuel (' ' :: (print depth value ++ tail)) = some (value, tail) := by
    rw [← h depth fuel tail hfuel htail]
    exact readValue?_congr (dropBlanks_space _) fuel
  have hkey : dropBlanks (quoted key ++ (':' :: ' ' :: (print depth value ++ tail)))
      = '"' :: (key.toList.flatMap escape ++ '"' :: ':' :: ' ' :: (print depth value ++ tail)) := by
    rw [dropBlanks_quoted]
    simp [quoted]
  rw [readEntries?, hkey]
  simp only [readString?_quoted, dropBlanks_cons (c := ':') (by decide)]
  rewrite [hvalue]
  rfl

/-- The entries of an object read back, up to its closing brace. -/
theorem readEntries?_print {e : String × Json} {entries : List (String × Json)}
    (he : e.2.ReadsBack) (hentries : ∀ e ∈ entries, e.2.ReadsBack) (depth outer : Nat)
    (rest : List Char)
    (before : List (Option String × Json)) (fuel : Nat)
    (hfuel : (print depth e.2).length + (printEntries depth entries).length ≤ fuel) :
    readEntries? (fuel + 1)
        (quoted e.1 ++ (':' :: ' ' :: (print depth e.2 ++
          (printEntries depth entries ++ (newline outer ++ '\x7d' :: rest))))) before
      = some (before.reverse ++ (e :: entries).map (fun e => (some e.1, e.2)), rest) := by
  -- By induction on the entries, with one unit of fuel for each.
  induction entries generalizing e before fuel with
  | nil =>
    rw [printEntries, List.nil_append, readEntries?_entry e.1 he (by omega) (.newline outer _)]
    simp [dropBlanks_newline, dropBlanks_cons (c := '\x7d') (by decide)]
  | cons next entries ih =>
    simp only [printEntries, List.length_cons, List.length_append] at hfuel
    obtain ⟨fuel, rfl⟩ : ∃ n, fuel = n + 1 := ⟨fuel - 1, by omega⟩
    rw [printEntries, List.cons_append, readEntries?_entry e.1 he (by omega) (.cons _ (by decide))]
    simp only [dropBlanks_cons (c := ',') (by decide), List.append_assoc, List.cons_append,
      List.nil_append]
    obtain ⟨hnext, hrest⟩ := List.forall_mem_cons.1 hentries
    rw [readEntries?_newline, ih hnext hrest _ fuel (by omega)]
    simp

theorem ofEntries_map_some (entries : List (String × Json)) :
    ofEntries (entries.map fun e => (some e.1, e.2)) = object entries := by
  have hkeys : (entries.map fun e => (some e.1, e.2)).mapM
      (fun e => e.1.map fun key : String => (key, e.2)) = some entries := by
    induction entries with
    | nil => rfl
    | cons e entries ih => simp [ih]
  unfold ofEntries
  rw [hkeys]

theorem readsBack_null : null.ReadsBack :=
  IsPlain.null.readsBack_of_succ fun _ _ _ _ _ => rfl

theorem readsBack_bool (value : Bool) : (bool value).ReadsBack :=
  (IsPlain.bool value).readsBack_of_succ fun _ _ _ _ _ => by cases value <;> rfl

theorem readsBack_natural (n : Nat) : (natural n).ReadsBack := by
  refine (IsPlain.natural n).readsBack_of_succ fun depth fuel rest _ hrest => ?_
  obtain ⟨c, cs, hprint, hdigit⟩ := exists_print_natural_eq_cons depth n
  have hread : readNumber? false (c :: (cs ++ rest)) = some (natural n, rest) := by
    rw [← List.cons_append, ← hprint, print_natural, readNumber?_toDigits n hrest]
  rw [readValue?, hprint, List.cons_append, dropBlanks_cons (isBlank_of_isDigit hdigit)]
  -- A digit is none of the characters that open another value.
  dsimp only
  split
  iterate 7 exact absurd hdigit (by decide)
  rw [if_pos hdigit, hread]

theorem readsBack_string (text : String) : (string text).ReadsBack := by
  refine (IsPlain.string text).readsBack_of_succ fun depth fuel rest _ _ => ?_
  simp only [readValue?, print, quoted, List.cons_append, dropBlanks_cons (c := '"') (by decide),
    List.append_assoc, List.nil_append, readString?_quoted]
  rfl

theorem readsBack_array {items : List Json} (h : ∀ j ∈ items, j.IsPlain)
    (ih : ∀ j ∈ items, j.ReadsBack) : (array items).ReadsBack := by
  refine (IsPlain.array h).readsBack_of_succ fun depth fuel rest hfuel _ => ?_
  cases items with
  | nil =>
    simp [readValue?, print, dropBlanks_cons (c := '[') (by decide),
      dropBlanks_cons (c := ']') (by decide)]
  | cons item items =>
    simp only [print, List.length_cons, List.length_append] at hfuel
    -- The opening bracket and the line break after it pay for two steps.
    obtain ⟨fuel, rfl⟩ : ∃ n, fuel = n + 1 := ⟨fuel - 1, by omega⟩
    obtain ⟨hitem, hrest⟩ := List.forall_mem_cons.1 ih
    have hitems := readItems?_print hitem hrest (depth + 1) depth rest [] fuel (by omega)
    obtain ⟨c, cs, hprint, hblank, hclose⟩ :=
      (h item List.mem_cons_self).exists_print_eq_cons (depth + 1)
    rw [hprint, List.cons_append] at hitems
    simp only [readValue?, print, List.cons_append, dropBlanks_cons (c := '[') (by decide),
      List.append_assoc, List.nil_append, dropBlanks_newline, hprint, dropBlanks_cons hblank]
    split
    · next hbracket => exact absurd (List.cons.inj hbracket).1 hclose
    · simp [hitems]

theorem readsBack_object {entries : List (String × Json)} (h : ∀ e ∈ entries, e.2.IsPlain)
    (ih : ∀ e ∈ entries, e.2.ReadsBack) : (object entries).ReadsBack := by
  refine (IsPlain.object h).readsBack_of_succ fun depth fuel rest hfuel _ => ?_
  cases entries with
  | nil =>
    simp [readValue?, print, dropBlanks_cons (c := '\x7b') (by decide),
      dropBlanks_cons (c := '\x7d') (by decide)]
  | cons e entries =>
    obtain ⟨key, value⟩ := e
    simp only [print, List.length_cons, List.length_append] at hfuel
    obtain ⟨fuel, rfl⟩ : ∃ n, fuel = n + 1 := ⟨fuel - 1, by omega⟩
    obtain ⟨he, hrest⟩ := List.forall_mem_cons.1 ih
    have hentries := readEntries?_print he hrest (depth + 1) depth rest [] fuel
      (by dsimp only; omega)
    simp only [readValue?, print, List.cons_append, dropBlanks_cons (c := '\x7b') (by decide),
      List.append_assoc, List.nil_append, dropBlanks_newline]
    -- The first character of a field is a quotation mark, not the brace that ends the object.
    rw [dropBlanks_quoted]
    split
    · next hbrace => exact absurd (List.cons.inj hbrace).1 (by decide)
    · rw [hentries, List.reverse_nil, List.nil_append, Option.map_some, ofEntries_map_some]

/-- Every plain value reads back from its text. -/
theorem IsPlain.readsBack {j : Json} (h : j.IsPlain) : j.ReadsBack := by
  induction h with
  | null => exact readsBack_null
  | bool value => exact readsBack_bool value
  | natural n => exact readsBack_natural n
  | string text => exact readsBack_string text
  | array h ih => exact readsBack_array h ih
  | object h ih => exact readsBack_object h ih

/-- **The text of a plain value is read as the value.** -/
theorem parse?_toText {j : Json} (h : j.IsPlain) : parse? j.toText.toList = some j := by
  have hread := h.readsBack 0 ((print 0 j).length + 1) [] (by omega) .nil
  rw [List.append_nil] at hread
  simp [parse?, toText, hread, dropBlanks]

end DepTriage.Json
