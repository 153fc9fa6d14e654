import DepTriage.Proofs.Json.RoundTrip
import DepTriage.Proofs.Toml.Strings
import DepTriage.Toml.Reader

/-!
# Written TOML values read back

The values of fields are strings, natural numbers and arrays of strings. A number is followed by a
newline, and up to there nothing turns it into a date, a fraction or a number in another base.

## Key results

- `number?_toDigits`: a number as it is written
- `items?_arrayText`: the strings of an array as they are written
- `FieldValue.value?_text`: the value of a field as it is written
-/

namespace DepTriage.Toml

open Text (hexDigit?)

/-! ## Digits -/

/-- The digits in front are taken up to the end of the line. -/
theorem digitsOnto?_append {digits : List Char} (hdigits : ∀ c ∈ digits, c.isDigit)
    (rest onto : List Char) {afterDigit : Bool} (h : afterDigit = true ∨ digits ≠ []) :
    digitsOnto? Char.isDigit (digits ++ '\n' :: rest) afterDigit onto =
      some (onto.reverse ++ digits, '\n' :: rest) := by
  induction digits generalizing afterDigit onto with
  | nil =>
    obtain rfl : afterDigit = true := h.resolve_right fun hne => hne rfl
    simp [digitsOnto?]
  | cons c digits ih =>
    obtain ⟨hc, hdigits⟩ := List.forall_mem_cons.1 hdigits
    rw [List.cons_append, digitsOnto?, if_pos hc, ih hdigits _ (Or.inl rfl)]
    simp

theorem hexDigit?_of_isDigit {c : Char} (h : c.isDigit) :
    hexDigit? c = some (c.toNat - '0'.toNat) := by
  simp only [Char.isDigit, Bool.and_eq_true, decide_eq_true_eq] at h
  have hrange : '0' ≤ c ∧ c ≤ '9' := h
  rw [hexDigit?, if_pos hrange]

/-- The value of decimal digits. -/
theorem valueIn_toDigits (n : Nat) : valueIn 10 (Nat.toDigits 10 n) = n := by
  -- A decimal digit counts the same when read as hexadecimal.
  have hvalue : ∀ {digits : List Char} (value : Nat), (∀ c ∈ digits, c.isDigit) →
      digits.foldl (fun n c => 10 * n + (hexDigit? c).getD 0) value =
        Nat.ofDigitChars 10 digits value := by
    intro digits value h
    induction digits generalizing value with
    | nil => rfl
    | cons c digits ih =>
      obtain ⟨hc, hrest⟩ := List.forall_mem_cons.1 h
      rw [List.foldl_cons, ih _ hrest, hexDigit?_of_isDigit hc, Nat.ofDigitChars_cons]
      rfl
  have hdigits : ∀ c ∈ Nat.toDigits 10 n, c.isDigit := fun c hc =>
    Nat.isDigit_of_mem_toDigits (by decide) (by decide) hc
  rw [valueIn, hvalue 0 hdigits, Nat.ofDigitChars_ten_toDigits]

/-! ## Numbers -/

section

variable {digits : List Char} (hdigits : ∀ c ∈ digits, c.isDigit) (rest : List Char)

include hdigits

/-- However many digits are taken, a digit or the newline follows them. -/
theorem head?_of_fixedDigits? {count n : Nat} {more : List Char}
    (h : fixedDigits? count (digits ++ '\n' :: rest) = some (n, more)) (mark : Char)
    (hmark : mark.isDigit = false) (hline : mark ≠ '\n') : (more.head? == some mark) = false := by
  simp only [fixedDigits?] at h
  split at h
  · next hall =>
    obtain ⟨-, rfl⟩ := Prod.mk.inj (Option.some.inj h)
    simp only [Bool.and_eq_true, decide_eq_true_eq, List.all_eq_true] at hall
    obtain ⟨hlength, htaken⟩ := hall
    -- The newline is no digit, so all that was taken stands before it.
    have hcount : count ≤ digits.length := Nat.le_of_not_lt fun hmore => by
      obtain ⟨k, hk⟩ : ∃ k, count - digits.length = k + 1 :=
        ⟨_, (Nat.sub_add_cancel (Nat.sub_pos_of_lt hmore)).symm⟩
      refine absurd (htaken '\n' ?_) (by decide)
      rw [List.take_append, hk]
      simp
    rw [List.drop_append_of_le_length hcount, beq_eq_false_iff_ne]
    intro hhead
    cases hdrop : digits.drop count with
    | nil =>
      rw [hdrop] at hhead
      exact hline (Option.some.inj hhead).symm
    | cons c cs =>
      rw [hdrop] at hhead
      obtain rfl : c = mark := Option.some.inj hhead
      have hmem : c ∈ digits := List.mem_of_mem_drop (hdrop ▸ List.mem_cons_self)
      rw [hdigits c hmem] at hmark
      exact nomatch hmark
  · exact nomatch h

/-- Without a dash, digits start no date. -/
theorem startsDate_append : startsDate (digits ++ '\n' :: rest) = false := by
  rw [startsDate]
  cases h : fixedDigits? 4 (digits ++ '\n' :: rest) with
  | none => rfl
  | some r => exact head?_of_fixedDigits? hdigits rest h '-' (by decide) (by decide)

/-- Without a colon, digits start no time of day. -/
theorem startsTime_append : startsTime (digits ++ '\n' :: rest) = false := by
  rw [startsTime, twoDigits?]
  cases h : fixedDigits? 2 (digits ++ '\n' :: rest) with
  | none => rfl
  | some r =>
    -- Behind the digits stands a line break, so no colon can follow the first two.
    have hhead := head?_of_fixedDigits? hdigits rest h ':' (by decide) (by decide)
    rw [Option.filter_some]
    by_cases hrange : (decide (0 ≤ r.1) && decide (r.1 ≤ 23)) = true
    · rw [if_pos hrange]
      exact hhead
    · rw [if_neg hrange]
      rfl

end

theorem wholeDigits?_toDigits (n : Nat) (rest : List Char) :
    wholeDigits? (Nat.toDigits 10 n ++ '\n' :: rest) =
      some (Nat.toDigits 10 n, '\n' :: rest) := by
  rcases Nat.eq_zero_or_pos n with rfl | hpos
  · rfl
  -- A positive number starts with no zero, so the reader cannot stop at one.
  · have hhead := Json.head?_toDigits_append_ne hpos ('\n' :: rest)
    have hread : digits? Char.isDigit (Nat.toDigits 10 n ++ '\n' :: rest) =
        some (Nat.toDigits 10 n, '\n' :: rest) :=
      digitsOnto?_append (fun c hc => Nat.isDigit_of_mem_toDigits (by decide) (by decide) hc) _ _
        (Or.inr Nat.toDigits_ne_nil)
    rw [wholeDigits?.eq_def]
    split
    · next heq =>
      rw [heq] at hhead
      exact absurd rfl hhead
    · exact hread

theorem integerValue?_natural {n : Nat} (h : n < Nat.pow 2 63) :
    integerValue? (n : Int) = some (.integer n) := by
  rw [integerValue?, if_pos]
  have hpow : (Nat.pow 2 63 : Int) = 9223372036854775808 := rfl
  rw [hpow]
  omega

theorem decimalNumber?_toDigits {n : Nat} (h : n < Nat.pow 2 63) (rest : List Char) :
    decimalNumber? false (Nat.toDigits 10 n ++ '\n' :: rest) =
      some (.integer n, '\n' :: rest) := by
  unfold decimalNumber?
  rw [wholeDigits?_toDigits, Option.bind_eq_bind, Option.bind_some]
  show (integerValue? (valueIn 10 (Nat.toDigits 10 n) : Int) >>= fun v =>
    pure (v, '\n' :: rest)) = _
  rw [valueIn_toDigits, integerValue?_natural h]
  rfl

/-- A natural number reads back up to the end of its line. -/
theorem number?_toDigits {n : Nat} (h : n < Nat.pow 2 63) (rest : List Char) :
    number? (Nat.toDigits 10 n ++ '\n' :: rest) = some (.integer n, '\n' :: rest) := by
  have hdigits : ∀ c ∈ Nat.toDigits 10 n, c.isDigit := fun c hc =>
    Nat.isDigit_of_mem_toDigits (by decide) (by decide) hc
  have hfirst : ∀ {mark cs}, mark.isDigit = false →
      Nat.toDigits 10 n ++ '\n' :: rest ≠ mark :: cs := by
    intro mark cs hmark heq
    have hmem : mark ∈ Nat.toDigits 10 n := by
      cases hcs : Nat.toDigits 10 n with
      | nil => exact absurd hcs Nat.toDigits_ne_nil
      | cons c digits =>
        rw [hcs] at heq
        rw [(List.cons.inj heq).1]
        exact List.mem_cons_self
    rw [hdigits mark hmem] at hmark
    exact nomatch hmark
  -- Only zero is written with a zero in front, and no letter follows it.
  have hzero : ∀ {c cs}, Nat.toDigits 10 n ++ '\n' :: rest = '0' :: c :: cs → c = '\n' := by
    intro c cs heq
    rcases Nat.eq_zero_or_pos n with rfl | hpos
    · exact (List.cons.inj (List.cons.inj heq).2).1.symm
    · exact absurd (congrArg List.head? heq) (Json.head?_toDigits_append_ne hpos _)
  rw [number?, startsDate_append hdigits, startsTime_append hdigits]
  · exact decimalNumber?_toDigits h rest
  · exact fun _ => hfirst (by decide)
  · exact fun _ => hfirst (by decide)
  · exact fun _ heq => absurd (hzero heq) (by decide)
  · exact fun _ heq => absurd (hzero heq) (by decide)
  · exact fun _ heq => absurd (hzero heq) (by decide)

/-! ## Values -/

/-- A string starts with one of the two marks. -/
theorem stringText_eq_cons (text : String) :
    ∃ c cs, stringText text = c :: cs ∧ (c = '"' ∨ c = '\'') := by
  -- Each of the six forms opens with one of the two marks.
  rw [stringText]
  split
  · exact ⟨_, _, rfl, Or.inl rfl⟩
  · split
    · exact ⟨_, _, rfl, Or.inr rfl⟩
    · split
      · exact ⟨_, _, rfl, Or.inl rfl⟩
      · split
        · exact ⟨_, _, rfl, Or.inr rfl⟩
        · split
          · exact ⟨_, _, rfl, Or.inl rfl⟩
          · exact ⟨_, _, rfl, Or.inl rfl⟩

theorem value?_stringText (fuel depth : Nat) (text : String) {rest : List Char}
    (hrest : EndsString rest) :
    value? (fuel + 1) depth (stringText text ++ rest) = some (.string text, rest) := by
  have hread := string?_stringText text hrest
  obtain ⟨c, cs, htext, hmark⟩ := stringText_eq_cons text
  rw [htext, List.cons_append] at hread ⊢
  have hquoted : (c == '"' || c == '\'') = true := by rcases hmark with rfl | rfl <;> rfl
  rw [value?, if_pos hquoted, hread]
  rfl

/-- A number starts with a digit. -/
theorem toDigits_eq_cons (n : Nat) : ∃ c cs, Nat.toDigits 10 n = c :: cs ∧ c.isDigit := by
  obtain ⟨c, cs, hdigits⟩ := List.exists_cons_of_ne_nil (Nat.toDigits_ne_nil (n := n) (b := 10))
  exact ⟨c, cs, hdigits,
    Nat.isDigit_of_mem_toDigits (by decide) (by decide) (hdigits ▸ List.mem_cons_self)⟩

theorem beq_false_of_isDigit {c mark : Char} (hc : c.isDigit) (hmark : mark.isDigit = false) :
    (c == mark) = false := by
  refine beq_eq_false_iff_ne.2 fun heq => ?_
  rw [← heq, hc] at hmark
  exact nomatch hmark

theorem value?_toDigits (fuel depth : Nat) {n : Nat} (h : n < Nat.pow 2 63) (rest : List Char) :
    value? (fuel + 1) depth (Nat.toDigits 10 n ++ '\n' :: rest) =
      some (.integer n, '\n' :: rest) := by
  have hread := number?_toDigits h rest
  -- The first digit tells a number from every other value.
  obtain ⟨c, digits, hdigits, hdigit⟩ := toDigits_eq_cons n
  have hne : ∀ {mark : Char}, mark.isDigit = false → (c == mark) = false :=
    beq_false_of_isDigit hdigit
  rw [hdigits, List.cons_append] at hread ⊢
  rw [value?]
  simp only [hne (show '"'.isDigit = false by decide), hne (show '\''.isDigit = false by decide),
    hne (show '['.isDigit = false by decide), hne (show '\x7b'.isDigit = false by decide), hdigit,
    Bool.or_true, Bool.or_self, Bool.false_eq_true, if_false, if_true, hread]

/-! ## Arrays -/

/-- Nothing in front of an item is dropped but the white space. -/
theorem dropSpace?_stringText (text : String) (rest : List Char) :
    dropSpace? (stringText text ++ rest) false = some (stringText text ++ rest) := by
  obtain ⟨c, cs, htext, rfl | rfl⟩ := stringText_eq_cons text
  · rw [htext]
    rfl
  · rw [htext]
    rfl

/-- An item of an array, and what follows it. -/
theorem items?_stringText (fuel depth : Nat) (item : String) {rest : List Char} (onto : List Value)
    (hrest : EndsString rest) {cs : List Char}
    (hcs : dropSpace? cs false = some (stringText item ++ rest)) :
    items? (fuel + 2) depth cs onto =
      match dropSpace? rest false with
      | some (',' :: more) => items? (fuel + 1) depth more (.string item :: onto)
      | some (']' :: more) => some ((Value.string item :: onto).reverse, more)
      | _ => none := by
  have hvalue := value?_stringText fuel depth item hrest
  rw [items?]
  split
  · next heq => exact nomatch hcs.symm.trans heq
  · next more heq =>
    -- No item starts with the bracket that would close the array.
    obtain ⟨c, text, htext, hmark⟩ := stringText_eq_cons item
    rw [hcs, htext] at heq
    obtain rfl : c = ']' := (List.cons.inj (Option.some.inj heq)).1
    exact absurd hmark (by decide)
  · next heq =>
    obtain rfl := Option.some.inj (hcs.symm.trans heq)
    rewrite [hvalue]
    rfl

/-- The items of an array with an item on each line, up to its closing bracket. -/
def itemLines (items : List String) : List Char :=
  items.flatMap fun item => "    ".toList ++ stringText item ++ ",\n".toList

theorem items?_itemLines (items : List String) {fuel : Nat} (depth : Nat)
    (hfuel : items.length < fuel) (rest : List Char) (onto : List Value) :
    items? (fuel + 1) depth ('\n' :: (itemLines items ++ ']' :: rest)) onto =
      some (onto.reverse ++ items.map .string, rest) := by
  induction items generalizing fuel onto with
  | nil =>
    have hspace : dropSpace? ('\n' :: (itemLines [] ++ ']' :: rest)) false = some (']' :: rest) :=
      rfl
    rw [items?, hspace, List.map_nil, List.append_nil]
    rfl
  | cons item items ih =>
    -- One unit of fuel reads one item, and one is left over for the bracket.
    obtain ⟨k, rfl⟩ : ∃ k, fuel = k + 1 := ⟨fuel - 1, by omega⟩
    have htext : itemLines (item :: items) ++ ']' :: rest = ' ' :: ' ' :: ' ' :: ' ' ::
        (stringText item ++ ',' :: '\n' :: (itemLines items ++ ']' :: rest)) := by
      simp [itemLines]
    have hspace : dropSpace? ('\n' :: (itemLines (item :: items) ++ ']' :: rest)) false =
        some (stringText item ++ ',' :: '\n' :: (itemLines items ++ ']' :: rest)) := by
      rw [htext]
      exact dropSpace?_stringText item _
    have hcomma : EndsString (',' :: '\n' :: (itemLines items ++ ']' :: rest)) :=
      .cons (by decide) (by decide) _
    rw [items?_stringText k depth item onto hcomma hspace]
    show items? (k + 1) depth ('\n' :: (itemLines items ++ ']' :: rest)) _ = _
    rw [ih (Nat.lt_of_succ_lt_succ hfuel)]
    simp

/-- The items of an array read back, after its opening bracket. -/
theorem items?_arrayText (items : List String) {fuel : Nat} (depth : Nat)
    (hfuel : items.length < fuel) (rest : List Char) :
    ∃ cs, arrayText items ++ rest = '[' :: cs ∧
      items? (fuel + 1) depth cs [] = some (items.map .string, rest) := by
  -- An array of several items stands on lines of its own.
  match items with
  | [] => exact ⟨']' :: rest, rfl, by rw [items?]; rfl⟩
  | [item] =>
    obtain ⟨k, rfl⟩ : ∃ k, fuel = k + 1 := ⟨fuel - 1, by omega⟩
    have hbracket : EndsString (']' :: rest) := .cons (by decide) (by decide) _
    refine ⟨stringText item ++ ']' :: rest, by simp [arrayText], ?_⟩
    rw [items?_stringText k depth item [] hbracket (dropSpace?_stringText item _)]
    rfl
  | first :: second :: others =>
    have htext : arrayText (first :: second :: others) ++ rest =
        '[' :: '\n' :: (itemLines (first :: second :: others) ++ ']' :: rest) := by
      simp [arrayText, itemLines]
    exact ⟨_, htext, items?_itemLines _ depth hfuel rest []⟩

/-! ## Fields -/

namespace FieldValue

/-- The value that a field has in a document. -/
def value : FieldValue → Value
  | string text => .string text
  | natural n => .integer n
  | strings items => .array (items.map .string)

/-- A document can hold the value. -/
def Fits : FieldValue → Prop
  | natural n => n < Nat.pow 2 63
  | _ => True

/-- Writing the items of an array takes more characters than there are items. -/
theorem length_lt_length_arrayText (items : List String) :
    items.length + 1 < (arrayText items).length := by
  -- Every item takes a line, which is at least as long as its indentation.
  have hlines : ∀ items : List String, items.length ≤ (itemLines items).length := by
    intro items
    induction items with
    | nil => exact Nat.le_refl _
    | cons item items ih =>
      have hcons : itemLines (item :: items) =
          "    ".toList ++ stringText item ++ ",\n".toList ++ itemLines items := rfl
      rw [hcons, List.length_append, List.length_append, List.length_append, List.length_cons]
      have hspaces : "    ".toList.length = 4 := rfl
      omega
  match items with
  | [] => exact Nat.lt_succ_self 1
  | [item] =>
    obtain ⟨c, cs, htext, -⟩ := stringText_eq_cons item
    simp [arrayText, htext]
  | first :: second :: others =>
    have htext : arrayText (first :: second :: others) =
        "[\n".toList ++ itemLines (first :: second :: others) ++ [']'] := rfl
    have hle := hlines (first :: second :: others)
    rw [htext, List.length_append, List.length_append, List.length_singleton]
    have hopen : "[\n".toList.length = 2 := rfl
    omega

theorem text_natural (n : Nat) : (natural n).text = Nat.toDigits 10 n := by
  rw [text, Nat.toString_eq_ofList_toDigits, String.toList_ofList]

/-- No blank stands in front of a value. -/
theorem dropBlanks_text (v : FieldValue) (rest : List Char) :
    dropBlanks (v.text ++ rest) = v.text ++ rest := by
  -- No value starts with a blank.
  have hfirst : ∃ c cs, v.text = c :: cs ∧ isBlank c = false := by
    cases v with
    | string text =>
      obtain ⟨c, cs, htext, rfl | rfl⟩ := stringText_eq_cons text
      · exact ⟨_, _, htext, rfl⟩
      · exact ⟨_, _, htext, rfl⟩
    | natural n =>
      obtain ⟨c, digits, hdigits, hdigit⟩ := toDigits_eq_cons n
      refine ⟨c, digits, (text_natural n).trans hdigits, ?_⟩
      rw [isBlank, beq_false_of_isDigit hdigit (by decide),
        beq_false_of_isDigit hdigit (by decide)]
      rfl
    | strings items =>
      match items with
      | [] => exact ⟨_, _, rfl, rfl⟩
      | [item] => exact ⟨_, _, rfl, rfl⟩
      | first :: second :: others => exact ⟨_, _, rfl, rfl⟩
  obtain ⟨c, cs, htext, hblank⟩ := hfirst
  rw [htext, List.cons_append]
  exact List.dropWhile_cons_of_neg (by simp [hblank])

/-- The value of a field reads back up to the end of its line. -/
theorem value?_text {v : FieldValue} (hv : v.Fits) {fuel : Nat} (depth : Nat)
    (hfuel : v.text.length ≤ fuel) (rest : List Char) :
    Toml.value? (fuel + 1) (depth + 1) (v.text ++ '\n' :: rest) = some (v.value, '\n' :: rest) := by
  cases v with
  | string text => exact value?_stringText fuel _ text (.cons (by decide) (by decide) _)
  | natural n =>
    rw [text_natural]
    exact value?_toDigits fuel _ hv rest
  | strings items =>
    -- The text of an array is longer than its number of items, so the fuel reaches.
    have hlength := length_lt_length_arrayText items
    have hfuel : (arrayText items).length ≤ fuel := hfuel
    obtain ⟨k, rfl⟩ : ∃ k, fuel = k + 1 := ⟨fuel - 1, by omega⟩
    have hk : items.length < k := by omega
    obtain ⟨cs, htext, hitems⟩ := items?_arrayText items depth hk ('\n' :: rest)
    rw [text, htext]
    show (items? (k + 1) depth cs []).map _ = _
    rw [hitems]
    rfl

end FieldValue

end DepTriage.Toml
