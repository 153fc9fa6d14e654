import DepTriage.Proofs.Time.Calendar
import DepTriage.Time.Reading
import Mathlib.Algebra.Group.Nat.Defs

/-!
# Written dates and times read back

The reader of times is lenient, and what it cannot read is dropped without a word. So it matters
that it reads whatever is written: a year outside 0 to 9999 has a sign, a fraction has as many
digits as it takes, and a leap second is the sixtieth of its minute. A leap second that follows
another second than the last of its minute has no text of its own: it is written as a fraction of
the second after it.

## Key results

- `Date.read?_toText`: every date of the calendar reads back from its text.
- `Timestamp.IsRepresentable.read?_toText`: the text of every point in time reads back, to the
  nanosecond.
- `Timestamp.IsRepresentable.asWritten_eq_iff`: what is read is the same point in time, but for
  these leap seconds.
- `Date.exists_read?_iff`, `Timestamp.exists_read?_iff`: no others can be read from any text.
-/

namespace DepTriage

/-! ## Padded numbers -/

namespace Date

theorem toList_padded (width n : Nat) :
    (padded width n).toList
      = List.replicate (width - (Nat.toDigits 10 n).length) '0' ++ Nat.toDigits 10 n := by
  rw [padded, Nat.toString_eq_ofList_toDigits]
  simp

theorem isDigit_of_mem_padded {width n : Nat} {c : Char} (h : c ∈ (padded width n).toList) :
    c.isDigit := by
  rw [toList_padded, List.mem_append] at h
  obtain h | h := h
  · obtain ⟨-, rfl⟩ := List.mem_replicate.1 h
    rfl
  · exact Nat.isDigit_of_mem_toDigits (by decide) (by decide) h

theorem ofDigitChars_padded (width n : Nat) :
    Nat.ofDigitChars 10 (padded width n).toList 0 = n := by
  rw [toList_padded, Nat.ofDigitChars_append, Nat.ofDigitChars_replicate_zero]
  simp [Nat.ofDigitChars_ten_toDigits]

theorem length_padded (width : Nat) {n : Nat} (hwidth : 0 < width) (h : n < 10 ^ width) :
    (padded width n).toList.length = width := by
  have hdigits := (Nat.length_toDigits_le_iff (b := 10) (by decide) hwidth).2 h
  simp [toList_padded]
  omega

/-- A padded number starts with a digit. -/
theorem exists_toList_padded_eq_cons (width n : Nat) :
    ∃ c cs, (padded width n).toList = c :: cs ∧ c.isDigit := by
  have hne : (padded width n).toList ≠ [] := by simp [toList_padded, Nat.toDigits_ne_nil]
  obtain ⟨c, cs, hpadded⟩ := List.exists_cons_of_ne_nil hne
  exact ⟨c, cs, hpadded, isDigit_of_mem_padded (hpadded ▸ List.mem_cons_self)⟩

theorem toText_eq (d : Date) :
    d.toText = yearText d.year ++ "-" ++ padded 2 d.month ++ "-" ++ padded 2 d.day :=
  rfl

end Date

namespace Time

open Date (padded)
open Text (isWhiteSpace)

theorem isWhiteSpace_of_isDigit {c : Char} (h : c.isDigit) : isWhiteSpace c = false := by
  have hrange : 48 ≤ c.toNat ∧ c.toNat ≤ 57 := Char.isDigit_iff_toNat.1 h
  simp [isWhiteSpace]
  omega

theorem dropSpace_cons {c : Char} (h : isWhiteSpace c = false) (cs : List Char) :
    dropSpace (c :: cs) = c :: cs :=
  List.dropWhile_cons_of_neg (by simp [h])

theorem dropSpace_padded (width n : Nat) (cs : List Char) :
    dropSpace ((padded width n).toList ++ cs) = (padded width n).toList ++ cs := by
  obtain ⟨c, _, hpadded, hdigit⟩ := Date.exists_toList_padded_eq_cons width n
  rw [hpadded, List.cons_append, dropSpace_cons (isWhiteSpace_of_isDigit hdigit)]

/-- Digits are taken as far as there are digits, or as many as may be taken. -/
theorem takeNumber_append {digits : List Char} (hdigits : ∀ c ∈ digits, c.isDigit) {most : Nat}
    (hmost : digits.length ≤ most) {rest : List Char}
    (hrest : digits.length = most ∨ ∀ c ∈ rest.head?, c.isDigit = false) (value count : Nat) :
    takeNumber most (digits ++ rest) value count
      = (Nat.ofDigitChars 10 digits value, count + digits.length, rest) := by
  induction digits generalizing most value count with
  -- What follows the digits ends the reading: the count is used up, or no digit comes next.
  | nil =>
    have hstop : takeNumber most rest value count = (value, count, rest) := by
      cases most with
      | zero => rfl
      | succ most =>
        cases rest with
        | nil => rfl
        | cons c rest => simp [takeNumber, hrest.resolve_left (by simp) c rfl]
    simpa [Nat.ofDigitChars] using hstop
  | cons c cs ih =>
    obtain ⟨hc, hcs⟩ := List.forall_mem_cons.1 hdigits
    obtain ⟨most, rfl⟩ : ∃ n, most = n + 1 := ⟨most - 1, by simp at hmost; omega⟩
    rw [List.cons_append, takeNumber, if_pos hc,
      ih hcs (by simpa using hmost) (by simpa using hrest), Nat.ofDigitChars_cons,
      List.length_cons]
    congr 2
    omega

/-- A padded number is read as the number. -/
theorem number?_padded {width n most : Nat} (rest : List Char)
    (hmost : (padded width n).toList.length ≤ most)
    (hrest : (padded width n).toList.length = most ∨ ∀ c ∈ rest.head?, c.isDigit = false) :
    number? most ((padded width n).toList ++ rest) = some (n, rest) := by
  obtain ⟨c, cs, hpadded, -⟩ := Date.exists_toList_padded_eq_cons width n
  have hcount : (padded width n).toList.length ≠ 0 := by simp [hpadded]
  simp only [number?, takeNumber_append (fun c => Date.isDigit_of_mem_padded) hmost hrest,
    Date.ofDigitChars_padded, Nat.zero_add, if_neg hcount]

theorem field?_padded {least greatest n : Nat} (hleast : least ≤ n) (hgreatest : n ≤ greatest)
    (hn : n < 100) (rest : List Char) :
    field? least greatest ((padded 2 n).toList ++ rest) = some (n, rest) := by
  have hlength := Date.length_padded 2 (by decide) hn
  rw [field?, dropSpace_padded, number?_padded rest (by omega) (.inl hlength)]
  simp [hleast, hgreatest]

theorem mark?_cons (mark : Char) (h : isWhiteSpace mark = false) (cs : List Char) :
    mark? mark (mark :: cs) = some cs := by
  simp [mark?, dropSpace_cons h]

/-- A year of four digits needs no sign, and no more digits are read. -/
theorem year?_padded {n : Nat} (h : n ≤ 9999) (rest : List Char) :
    year? ((padded 4 n).toList ++ rest) = some ((n : Int), rest) := by
  have hlength := Date.length_padded 4 (n := n) (by decide) (by omega)
  have hnumber := number?_padded rest (n := n) (by omega) (.inl hlength)
  obtain ⟨c, cs, hpadded, hdigit⟩ := Date.exists_toList_padded_eq_cons 4 n
  rw [year?, dropSpace_padded]
  rw [hpadded, List.cons_append] at hnumber ⊢
  -- Four digits without a sign: the first character is no sign.
  split
  · next hsign => exact absurd ((List.cons.inj hsign).1 ▸ hdigit) (by decide)
  · next hsign => exact absurd ((List.cons.inj hsign).1 ▸ hdigit) (by decide)
  · rw [hnumber, Option.map_some]

/-- After a sign, the digits are read up to the mark after them. -/
theorem number?_signed (n : Nat) (rest : List Char) :
    number? ((padded 4 n).toList ++ '-' :: rest).length ((padded 4 n).toList ++ '-' :: rest)
      = some (n, '-' :: rest) := by
  refine number?_padded _ (by simp) (.inr ?_)
  rintro _ ⟨⟩
  rfl

theorem year?_minus (n : Nat) (rest : List Char) :
    year? (("-" ++ padded 4 n).toList ++ '-' :: rest) = some (-(n : Int), '-' :: rest) := by
  have hsigned : ("-" ++ padded 4 n).toList ++ '-' :: rest
      = '-' :: ((padded 4 n).toList ++ '-' :: rest) := by simp
  rw [hsigned, year?, dropSpace_cons (by decide)]
  simp only [number?_signed, Option.map_some]

theorem year?_plus (n : Nat) (rest : List Char) :
    year? (("+" ++ padded 4 n).toList ++ '-' :: rest) = some ((n : Int), '-' :: rest) := by
  have hsigned : ("+" ++ padded 4 n).toList ++ '-' :: rest
      = '+' :: ((padded 4 n).toList ++ '-' :: rest) := by simp
  rw [hsigned, year?, dropSpace_cons (by decide)]
  simp only [number?_signed, Option.map_some]

/-- A year is read up to the mark after it. -/
theorem year?_yearText (year : Int) (rest : List Char) :
    year? ((Date.yearText year).toList ++ '-' :: rest) = some (year, '-' :: rest) := by
  rw [Date.yearText]
  -- The three forms of a year: four digits, or a sign in front of the digits.
  split
  · next hyear =>
    rw [year?_padded (by omega), Int.toNat_of_nonneg hyear.1]
  split
  · next hnegative =>
    rw [year?_minus, Int.ofNat_natAbs_of_nonpos (by omega), Int.neg_neg]
  · next hpositive =>
    rw [year?_plus, Int.natAbs_of_nonneg (by omega)]

/-- A date is read up to the end of its day. -/
theorem date?_toText {d : Date} (h : d.isValid) (rest : List Char) :
    date? (d.toText.toList ++ rest) = some (d, rest) := by
  have hvalid := h
  simp only [Date.isValid, Bool.and_eq_true, decide_eq_true_eq] at h
  -- The fields of a valid date are within what two digits can show.
  obtain ⟨⟨⟨⟨⟨-, -⟩, hmonth₁⟩, hmonth₂⟩, hday₁⟩, hday₂⟩ := h
  have hlast := Date.daysInMonth_le d.year d.month
  have htext : d.toText.toList ++ rest = (Date.yearText d.year).toList ++ '-' ::
      ((padded 2 d.month).toList ++ '-' :: ((padded 2 d.day).toList ++ rest)) := by
    rw [Date.toText_eq]
    simp
  have hmonth := field?_padded hmonth₁ hmonth₂ (by omega)
    ('-' :: ((padded 2 d.day).toList ++ rest))
  have hday := field?_padded hday₁ (Nat.le_trans hday₂ hlast) (by omega) rest
  simp [date?, htext, year?_yearText, mark?_cons '-' (by decide), hmonth, hday, hvalid]

/-- Digits after a point count as a fraction, however many there are. -/
theorem fraction?_padded {places n nanos : Nat} (hplaces : 0 < places ∧ places ≤ 9)
    (hn : n < 10 ^ places) (hnanos : n * 10 ^ (9 - places) = nanos) (rest : List Char) :
    fraction? (("." ++ padded places n).toList ++ 'Z' :: rest) = some (nanos, 'Z' :: rest) := by
  have hpoint : ("." ++ padded places n).toList ++ 'Z' :: rest
      = '.' :: ((padded places n).toList ++ 'Z' :: rest) := by simp
  have hlength := Date.length_padded places hplaces.1 hn
  have hZ : ∀ c ∈ ('Z' :: rest).head?, c.isDigit = false := by
    rintro _ ⟨⟩
    rfl
  -- All digits are taken, as the offset behind them is none.
  have htake : takeNumber 9 ((padded places n).toList ++ 'Z' :: rest) 0 0
      = (n, places, 'Z' :: rest) := by
    rw [takeNumber_append (fun c => Date.isDigit_of_mem_padded) (by omega) (.inr hZ),
      Date.ofDigitChars_padded, hlength, Nat.zero_add]
  have hdrop : ('Z' :: rest).dropWhile Char.isDigit = 'Z' :: rest :=
    List.dropWhile_cons_of_neg (by decide)
  simp only [hpoint, fraction?, htake, if_neg (Nat.pos_iff_ne_zero.1 hplaces.1), hdrop, Nat.pow_eq,
    hnanos]

/-- A fraction is read up to the mark of the offset. -/
theorem fraction?_fractionText {nanos : Nat} (h : nanos < Timestamp.nanosPerSecond)
    (rest : List Char) :
    fraction? ((Timestamp.fractionText nanos).toList ++ 'Z' :: rest)
      = some (nanos, 'Z' :: rest) := by
  rw [Timestamp.nanosPerSecond] at h
  rw [Timestamp.fractionText]
  -- A fraction is written with as few groups of three digits as hold it.
  split
  · next hzero =>
    subst hzero
    rfl
  split
  · next hmillis => exact fraction?_padded (by decide) (by omega) (by omega) rest
  split
  · next hmicros => exact fraction?_padded (by decide) (by omega) (by omega) rest
  · exact fraction?_padded (by decide) (by omega) (by omega) rest

/-- A time of day as it is written. -/
theorem timeOfDay?_of_text {hour minute second nanos : Nat} (hhour : hour < 24)
    (hminute : minute < 60) (hsecond : second ≤ 60) (hnanos : nanos < Timestamp.nanosPerSecond)
    (rest : List Char) :
    timeOfDay? ((padded 2 hour).toList ++ ':' :: ((padded 2 minute).toList ++ ':' ::
        ((padded 2 second).toList ++ ((Timestamp.fractionText nanos).toList ++ 'Z' :: rest))))
      = some (if second = 60 then
          (hour * 3600 + minute * 60 + 59, nanos + Timestamp.nanosPerSecond, 'Z' :: rest)
        else (hour * 3600 + minute * 60 + second, nanos, 'Z' :: rest)) := by
  have hhourRead := field?_padded (Nat.zero_le hour) (Nat.le_of_lt_succ hhour) (by omega)
  have hminuteRead := field?_padded (Nat.zero_le minute) (Nat.le_of_lt_succ hminute) (by omega)
  have hsecondRead := field?_padded (Nat.zero_le second) hsecond (by omega)
  have hmark := mark?_cons ':' (by decide)
  simp only [timeOfDay?, hhourRead, hminuteRead, hsecondRead, hmark,
    fraction?_fractionText hnanos, Option.bind_eq_bind, Option.bind_some]
  split <;> rfl

end Time

open Time

/-- **A date of the calendar reads back from its text.** -/
theorem Date.read?_toText {d : Date} (h : d.isValid) : Date.read? d.toText = some d := by
  have hdate := date?_toText h []
  rw [List.append_nil] at hdate
  simp only [Date.read?, hdate, Option.bind_eq_bind, Option.bind_some]
  rfl

namespace Timestamp

/-- A point in time between the first and the last year. A leap second may follow any second. -/
structure IsRepresentable (t : Timestamp) : Prop where
  date : (Date.ofDays t.day).isValid
  second : t.second < secondsPerDay
  nanosecond : t.nanosecond < 2 * nanosPerSecond

/-- A point in time whose leap second follows the last second of its minute; no other one can be
read from a text. -/
structure IsValid (t : Timestamp) : Prop extends t.IsRepresentable where
  leap : nanosPerSecond ≤ t.nanosecond → t.second % 60 = 59

instance (t : Timestamp) : Decidable t.IsRepresentable :=
  decidable_of_iff ((Date.ofDays t.day).isValid ∧ t.second < secondsPerDay ∧
      t.nanosecond < 2 * nanosPerSecond)
    ⟨fun ⟨date, second, nanosecond⟩ => ⟨date, second, nanosecond⟩,
      fun h => ⟨h.date, h.second, h.nanosecond⟩⟩

instance (t : Timestamp) : Decidable t.IsValid :=
  decidable_of_iff (t.IsRepresentable ∧ (nanosPerSecond ≤ t.nanosecond → t.second % 60 = 59))
    ⟨fun ⟨representable, leap⟩ => ⟨representable, leap⟩, fun h => ⟨h.toIsRepresentable, h.leap⟩⟩

/-- The second of its minute that a time is written with, 60 for a leap second. -/
def writtenSecond (t : Timestamp) : Nat :=
  t.second % 60 + if nanosPerSecond ≤ t.nanosecond then 1 else 0

/-- The fraction that a time is written with. -/
def writtenNanos (t : Timestamp) : Nat :=
  if nanosPerSecond ≤ t.nanosecond then t.nanosecond - nanosPerSecond else t.nanosecond

theorem toText_eq (t : Timestamp) :
    t.toText = (Date.ofDays t.day).toText ++ "T" ++ Date.padded 2 (t.second / 3600) ++ ":"
      ++ Date.padded 2 (t.second / 60 % 60) ++ ":" ++ Date.padded 2 t.writtenSecond
      ++ fractionText t.writtenNanos ++ "Z" := by
  simp only [toText]
  rfl

/-- The hour, the minute and the second of a time are read as the second of its day. -/
theorem IsValid.timeOfDay?_text {t : Timestamp} (h : t.IsValid) (rest : List Char) :
    timeOfDay? ((Date.padded 2 (t.second / 3600)).toList ++ ':' ::
        ((Date.padded 2 (t.second / 60 % 60)).toList ++ ':' ::
          ((Date.padded 2 t.writtenSecond).toList ++
            ((fractionText t.writtenNanos).toList ++ 'Z' :: rest))))
      = some (t.second, t.nanosecond, 'Z' :: rest) := by
  have hday := h.second
  have hnanos := h.nanosecond
  have hleap := h.leap
  simp only [secondsPerDay] at hday
  -- A leap second is written as the sixtieth, with a full second fewer in the fraction.
  by_cases hsecond : nanosPerSecond ≤ t.nanosecond
  · have hwritten : t.writtenSecond = 60 := by simp [writtenSecond, hsecond, hleap hsecond]
    have hrest : t.writtenNanos + nanosPerSecond = t.nanosecond := by
      simp only [writtenNanos, if_pos hsecond]
      omega
    rw [timeOfDay?_of_text (by omega) (by omega) (by omega) (by omega), if_pos hwritten, hrest]
    have hminute := hleap hsecond
    congr 2
    omega
  · have hwritten : t.writtenSecond = t.second % 60 := by simp [writtenSecond, hsecond]
    have hrest : t.writtenNanos = t.nanosecond := by simp [writtenNanos, hsecond]
    rw [timeOfDay?_of_text (by omega) (by omega) (by omega) (by omega), if_neg (by omega), hrest,
      hwritten]
    congr 2
    omega

/-- A point in time that can be read reads back from its text. -/
theorem IsValid.read?_toText {t : Timestamp} (h : t.IsValid) :
    Timestamp.read? t.toText = some t := by
  have htext : t.toText.toList = (Date.ofDays t.day).toText.toList ++ 'T' ::
      ((Date.padded 2 (t.second / 3600)).toList ++ ':' ::
        ((Date.padded 2 (t.second / 60 % 60)).toList ++ ':' ::
          ((Date.padded 2 t.writtenSecond).toList ++
            ((fractionText t.writtenNanos).toList ++ ['Z'])))) := by
    rw [toText_eq]
    simp
  have hoffset : offset? ['Z'] = some (0, []) := rfl
  -- The day and the second are put together in seconds and taken apart again.
  have hday : (t.day * secondsPerDay + t.second) / secondsPerDay = t.day := by
    have := h.second
    simp only [secondsPerDay] at this ⊢
    omega
  have hsecond : ((t.day * secondsPerDay + t.second) % secondsPerDay).toNat = t.second := by
    have := h.second
    simp only [secondsPerDay] at this ⊢
    omega
  have hmark : ('T' == 'T' || 'T' == 't' || 'T' == ' ') = true := rfl
  have hnothing : (!(dropSpace []).isEmpty) = false := rfl
  simp only [Timestamp.read?, htext, date?_toText h.date, h.timeOfDay?_text, hoffset, hmark,
    hnothing, Option.bind_eq_bind, Option.bind_some, if_true, Bool.false_eq_true, if_false,
    Date.toDays_ofDays, Int.sub_zero, hday, hsecond, h.date]

/-! ### Leap seconds within a minute -/

/-- The point in time that the text of `t` denotes: a leap second within a minute has the text of a
fraction of the second after it. -/
def asWritten (t : Timestamp) : Timestamp :=
  if nanosPerSecond ≤ t.nanosecond ∧ t.second % 60 ≠ 59 then
    ⟨t.day, t.second + 1, t.nanosecond - nanosPerSecond⟩
  else t

/-- A leap second and the fraction of the second after it are written alike. -/
theorem toText_asWritten {t : Timestamp} (h : t.nanosecond < 2 * nanosPerSecond) :
    t.asWritten.toText = t.toText := by
  unfold asWritten
  split
  · next hwithin =>
    obtain ⟨hleap, hsecond⟩ := hwithin
    -- The second after it lies in the same minute, and its fraction is less than a second.
    have hhour : (t.second + 1) / 3600 = t.second / 3600 := by omega
    have hminute : (t.second + 1) / 60 % 60 = t.second / 60 % 60 := by omega
    have hfraction : ¬nanosPerSecond ≤ t.nanosecond - nanosPerSecond := by omega
    have hnext : (t.second + 1) % 60 = t.second % 60 + 1 := by omega
    simp only [toText_eq, writtenSecond, writtenNanos, hhour, hminute, if_neg hfraction, hnext,
      if_pos hleap, Nat.add_zero]
  · rfl

theorem IsRepresentable.isValid_asWritten {t : Timestamp} (h : t.IsRepresentable) :
    t.asWritten.IsValid := by
  have hsecond := h.second
  have hnanos := h.nanosecond
  unfold asWritten
  split
  · next hwithin =>
    simp only [secondsPerDay] at hsecond
    refine ⟨⟨h.date, ?_, ?_⟩, fun hleap => ?_⟩
    · simp only [secondsPerDay]
      omega
    · dsimp only
      omega
    -- What is left of the fraction is less than a second.
    · exact absurd hleap (by dsimp only; omega)
  · next hnot => exact ⟨h, fun hleap => Decidable.not_not.1 fun hsecond => hnot ⟨hleap, hsecond⟩⟩

/-- **The text of a point in time reads back as what it denotes.** -/
theorem IsRepresentable.read?_toText {t : Timestamp} (h : t.IsRepresentable) :
    Timestamp.read? t.toText = some t.asWritten := by
  rw [← toText_asWritten h.nanosecond, h.isValid_asWritten.read?_toText]

/-- Only a leap second within a minute is not what its text denotes. -/
theorem IsRepresentable.asWritten_eq_iff {t : Timestamp} (h : t.IsRepresentable) :
    t.asWritten = t ↔ t.IsValid := by
  refine ⟨fun heq => heq ▸ h.isValid_asWritten, fun hvalid => if_neg ?_⟩
  rintro ⟨hleap, hsecond⟩
  exact hsecond (hvalid.leap hleap)

/-- They are a second apart, so that of a day between them and now only one of them may be short. -/
example :
    let leapSecond : Timestamp := ⟨0, 0, 1500000000⟩
    let now : Timestamp := ⟨1, 1, 250000000⟩
    now.since leapSecond = 86400750000000 ∧ now.since leapSecond.asWritten = 86399750000000 := by
  decide

end Timestamp

/-! ## What can be read -/

namespace Time

/-- A number that is read has at most as many digits as were taken, and no more are taken than may
be. -/
theorem takeNumber_lt {most value count : Nat} {cs : List Char} {n k : Nat} {rest : List Char}
    (h : takeNumber most cs value count = (n, k, rest)) (hvalue : value < 10 ^ count) :
    n < 10 ^ k ∧ k ≤ count + most := by
  -- Each digit that is taken multiplies the bound by ten.
  fun_induction takeNumber most cs value count with
  | case1 most c cs value count hdigit ih =>
    have hc : c.toNat - '0'.toNat ≤ 9 := by
      have hlast : c.toNat ≤ 57 := (Char.isDigit_iff_toNat.1 hdigit).2
      have hzero : '0'.toNat = 48 := rfl
      omega
    have := ih h (by omega)
    omega
  | case2 most c cs value count hdigit =>
    cases h
    omega
  | case3 most cs value count _ =>
    cases h
    omega

theorem le_of_field? {least greatest : Nat} {cs : List Char} {n : Nat} {rest : List Char}
    (h : field? least greatest cs = some (n, rest)) : least ≤ n ∧ n ≤ greatest := by
  simpa using (Option.filter_eq_some_iff.1 h).2

theorem isValid_of_date? {cs : List Char} {d : Date} {rest : List Char}
    (h : date? cs = some (d, rest)) : d.isValid := by
  simp only [date?, Option.bind_eq_bind, Option.bind_eq_some_iff, Option.ite_none_right_eq_some]
    at h
  obtain ⟨_, _, _, _, _, _, _, _, _, _, hvalid, hdate⟩ := h
  cases hdate
  exact hvalid

theorem lt_of_fraction? {cs : List Char} {n : Nat} {rest : List Char}
    (h : fraction? cs = some (n, rest)) : n < Timestamp.nanosPerSecond := by
  unfold fraction? at h
  split at h
  · next cs =>
    obtain ⟨value, count, rest', htake⟩ :
        ∃ value count rest', takeNumber 9 cs 0 0 = (value, count, rest') := ⟨_, _, _, rfl⟩
    rw [htake] at h
    simp only [Option.ite_none_left_eq_some, Option.some.injEq, Prod.mk.injEq] at h
    obtain ⟨-, rfl, -⟩ := h
    obtain ⟨hvalue, hcount⟩ := takeNumber_lt htake (by decide)
    -- At most nine digits are taken, and the zeros in place of the others keep the bound.
    have hpow : 10 ^ count * 10 ^ (9 - count) = 1000000000 := by
      rw [← Nat.pow_add, show count + (9 - count) = 9 by omega]
    calc value * 10 ^ (9 - count)
      _ < 10 ^ count * 10 ^ (9 - count) :=
        Nat.mul_lt_mul_of_pos_right hvalue (Nat.pow_pos (by decide))
      _ = 1000000000 := hpow
  · cases h
    decide

/-- A time of day that is read is one that the calendar has. -/
theorem bounds_of_timeOfDay? {cs : List Char} {second nanos : Nat} {rest : List Char}
    (h : timeOfDay? cs = some (second, nanos, rest)) :
    second < Timestamp.secondsPerDay ∧ nanos < 2 * Timestamp.nanosPerSecond ∧
      (Timestamp.nanosPerSecond ≤ nanos → second % 60 = 59) := by
  simp only [timeOfDay?, Option.bind_eq_bind, Option.bind_eq_some_iff] at h
  obtain ⟨⟨hour, _⟩, hhour, _, _, ⟨minute, _⟩, hminute, _, _, ⟨own, _⟩, hown,
    ⟨fraction, _⟩, hfraction, h⟩ := h
  have hhour := le_of_field? hhour
  have hminute := le_of_field? hminute
  have hown := le_of_field? hown
  have hfraction := lt_of_fraction? hfraction
  simp only [Timestamp.nanosPerSecond, Timestamp.secondsPerDay] at hfraction h ⊢
  -- The two branches are a leap second, which the reader gives at second 59, and any other.
  split at h
  · cases h
    omega
  · cases h
    omega

/-- An offset is a whole number of minutes. -/
theorem dvd_of_offset? {cs : List Char} {offset : Int} {rest : List Char}
    (h : offset? cs = some (offset, rest)) : 60 ∣ offset := by
  -- Hours and minutes are whole minutes, whichever sign they have.
  have hminutes (minus : Bool) (hours minutes : Nat) (rest' : List Char)
      (h : (if minutes < 60 && hours < 24 then
          some (if minus then -((hours : Int) * 3600 + minutes * 60)
            else (hours : Int) * 3600 + minutes * 60, rest')
        else none) = some (offset, rest)) : 60 ∣ offset := by
    obtain ⟨-, hoffset⟩ := Option.ite_none_right_eq_some.1 h
    have hvalue := congrArg Prod.fst (Option.some.inj hoffset)
    dsimp only at hvalue
    split at hvalue <;> omega
  simp only [offset?] at h
  split at h
  · next c cs _ =>
    split at h
    · cases h
      exact Int.dvd_zero 60
    · split at h
      · cases h
        exact Int.dvd_zero 60
      · simp only [Option.bind_eq_bind] at h
        split at h
        · obtain ⟨⟨hours, _⟩, _, ⟨minutes, _⟩, _, hoffset⟩ := by
            simpa only [Option.bind_some, Option.bind_eq_some_iff] using h
          exact hminutes false hours minutes _ hoffset
        · split at h
          · obtain ⟨⟨hours, _⟩, _, ⟨minutes, _⟩, _, hoffset⟩ := by
              simpa only [Option.bind_some, Option.bind_eq_some_iff] using h
            exact hminutes true hours minutes _ hoffset
          · cases h
  · cases h

end Time

/-- The dates that can be read are those of the calendar. -/
theorem Date.exists_read?_iff {d : Date} : (∃ text, Date.read? text = some d) ↔ d.isValid := by
  refine ⟨fun ⟨text, h⟩ => ?_, fun h => ⟨d.toText, Date.read?_toText h⟩⟩
  simp only [Date.read?, Option.bind_eq_bind, Option.bind_eq_some_iff,
    Option.ite_none_right_eq_some] at h
  obtain ⟨_, hdate, _, hd⟩ := h
  cases hd
  exact isValid_of_date? hdate

/-- The points in time that can be read are those that the calendar has. -/
theorem Timestamp.exists_read?_iff {t : Timestamp} :
    (∃ text, Timestamp.read? text = some t) ↔ t.IsValid := by
  refine ⟨fun ⟨text, h⟩ => ?_, fun h => ⟨t.toText, h.read?_toText⟩⟩
  simp only [Timestamp.read?, Option.bind_eq_bind, Option.bind_eq_some_iff] at h
  obtain ⟨⟨date, rest⟩, _, h⟩ := h
  split at h
  · split at h
    · simp only [Option.bind_some, Option.bind_eq_some_iff, Option.ite_none_left_eq_some,
        Option.ite_none_right_eq_some, Option.some.injEq] at h
      obtain ⟨⟨second, nanos, _⟩, htime, ⟨offset, _⟩, hoffset, _, hvalid, rfl⟩ := h
      obtain ⟨hsecond, hnanos, hleap⟩ := bounds_of_timeOfDay? htime
      -- Offsets are whole minutes, so that a leap second stays at the end of its minute.
      obtain ⟨minutes, rfl⟩ := dvd_of_offset? hoffset
      refine ⟨⟨hvalid, ?_, hnanos⟩, fun h => ?_⟩
      · simp only [secondsPerDay]
        omega
      · have := hleap h
        simp only [secondsPerDay] at hsecond ⊢
        omega
    · cases h
  · cases h

end DepTriage
