import DepTriage.Proofs.Time.Reading

/-!
# Spans of time

A span is counted in seconds, in a signed word of 64 bits, and in nanoseconds on top of them. The
greatest one either way has as many milliseconds as the word holds. The span between two points in
time is found in steps, each of which has to stay in this range: the days between them, what the
time of day adds, and the sum of both.

## Key results

- `since_eq_sub`: without leap seconds, the span between two points in time is the difference of
  their nanoseconds
- `since?_eq`: no step from one point in time to another leaves the range, even from the first to
  the last one
- `daysSpan?_eq`: nor does any number of days of 32 bits
-/

namespace DepTriage.Timestamp

/-! ## Points in time as numbers -/

/-- The nanoseconds since the start of 1970, on a clock that knows no leap seconds. -/
def sinceEpoch (t : Timestamp) : Int :=
  (t.day * secondsPerDay + t.second) * nanosPerSecond + t.nanosecond

/-- The leap second that counts between two points in time: that of the one that is earlier in its
day. -/
def leapBetween (t u : Timestamp) : Int :=
  if u.second < t.second then u.leap
  else if t.second < u.second then -t.leap
  else 0

/-- The seconds from one time of day to another. -/
def clockSeconds (t u : Timestamp) : Int :=
  t.second - u.second + t.leapBetween u

theorem since_eq (t u : Timestamp) :
    t.since u = ((t.day - u.day) * secondsPerDay + t.clockSeconds u) * nanosPerSecond
      + (t.nanosecond - u.nanosecond) := by
  simp only [since, clockSeconds, leapBetween]
  split
  · rfl
  split
  · rfl
  · rw [Int.add_zero]

/-- The span between two points in time that are no leap seconds. -/
theorem since_eq_sub {t u : Timestamp} (ht : t.leap = 0) (hu : u.leap = 0) :
    t.since u = t.sinceEpoch - u.sinceEpoch := by
  have hleap : t.leapBetween u = 0 := by
    simp only [leapBetween, ht, hu, Int.neg_zero, ite_self]
  rw [since_eq, clockSeconds, hleap, sinceEpoch, sinceEpoch, secondsPerDay, nanosPerSecond]
  omega

/-! ## Points in time in range -/

/-- The calendar has less than a hundred million days either way. -/
theorem IsRepresentable.day_bounds {t : Timestamp} (h : t.IsRepresentable) :
    -100000000 < t.day ∧ t.day < 100000000 := by
  have hdate := h.date
  rw [← Date.toDays_ofDays t.day]
  generalize Date.ofDays t.day = d at hdate
  simp only [Date.isValid, Bool.and_eq_true, decide_eq_true_eq] at hdate
  rw [Date.firstYear, Date.lastYear] at hdate
  have hlast := Date.daysInMonth_le d.year d.month
  -- The bounds of year, month and day bound the days that are counted to the date.
  simp only [Date.toDays]
  split <;> omega

/-- The times of day are less than a day apart, with the leap second between them. -/
theorem IsRepresentable.clockSeconds_bounds {t u : Timestamp} (ht : t.IsRepresentable)
    (hu : u.IsRepresentable) : (t.clockSeconds u).natAbs ≤ secondsPerDay := by
  have hsecond := ht.second
  have hsecond' := hu.second
  have hleap (v : Timestamp) : v.leap = 0 ∨ v.leap = 1 := by
    unfold leap
    split
    · exact .inr rfl
    · exact .inl rfl
  have := hleap t
  have := hleap u
  -- The seconds of a day differ by less than a day, which leaves room for one leap second.
  unfold clockSeconds leapBetween
  split
  · omega
  split
  · omega
  · omega

/-! ## Arithmetic in range -/

/-- A number that a signed word of 64 bits holds. -/
def word? (n : Int) : Option Int :=
  if -(2 ^ 63 : Nat) ≤ n ∧ n < (2 ^ 63 : Nat) then some n else none

/-- A span in nanoseconds. -/
def span? (seconds nanos : Int) : Option Int := do
  let total := (← word? seconds) * nanosPerSecond + nanos
  if total.natAbs ≤ (2 ^ 63 - 1) * 1000000 then some total else none

/-- The span of a number of days. -/
def daysSpan? (days : Int) : Option Int :=
  span? (days * secondsPerDay) 0

/-- The span from `u` to `t`. -/
def since? (t u : Timestamp) : Option Int := do
  let days ← daysSpan? (t.day - u.day)
  let clock ← span? (t.clockSeconds u) (t.nanosecond - u.nanosecond)
  span? ((days + clock) / nanosPerSecond) ((days + clock) % nanosPerSecond)

/-- Nine quadrillion seconds have fewer milliseconds than a word can count. -/
theorem span?_eq {seconds nanos : Int} (hseconds : seconds.natAbs < 9000000000000000)
    (hnanos : nanos.natAbs ≤ 2 * nanosPerSecond) :
    span? seconds nanos = some (seconds * nanosPerSecond + nanos) := by
  have hword : word? seconds = some seconds := if_pos (by omega)
  rw [span?, hword]
  refine if_pos ?_
  rw [nanosPerSecond] at hnanos ⊢
  omega

theorem daysSpan?_eq {days : Int} (h : days.natAbs < 2 ^ 32) :
    daysSpan? days = some (days * secondsPerDay * nanosPerSecond) := by
  rw [daysSpan?, span?_eq (by rw [secondsPerDay]; omega) (by decide), Int.add_zero]

/-- There are too many seconds in a trillion days. -/
example : daysSpan? 1000000000000 = none := by decide

/-- **The span between two points in time is always in range.** -/
theorem since?_eq {t u : Timestamp} (ht : t.IsRepresentable) (hu : u.IsRepresentable) :
    t.since? u = some (t.since u) := by
  have hday := ht.day_bounds
  have hday' := hu.day_bounds
  have hclock := ht.clockSeconds_bounds hu
  have hnanos := ht.nanosecond
  have hnanos' := hu.nanosecond
  rw [nanosPerSecond] at hnanos hnanos'
  rw [secondsPerDay] at hclock
  -- The days and the time of day are in range one by one, and their sum is cut into seconds anew.
  rw [since?, daysSpan?_eq (by omega), Option.bind_eq_bind, Option.bind_some,
    span?_eq (by omega) (by rw [nanosPerSecond]; omega), Option.bind_some,
    span?_eq (by rw [secondsPerDay, nanosPerSecond]; omega) (by rw [nanosPerSecond]; omega),
    since_eq]
  congr 1
  rw [secondsPerDay, nanosPerSecond]
  omega

end DepTriage.Timestamp
