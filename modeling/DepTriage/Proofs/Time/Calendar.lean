import DepTriage.Time.Date

/-!
# The days of the calendar

The date of a day is found by dividing: an era of 400 years by its centuries, a century by its
periods of four years, and a period by its years, each of which but the last has the same length.
Here it is shown that the divisions undo the count of days.

## Key results

- `yearOfEra_bounds`: the year that the divisions find is the one that the day lies in.
- `toDays_ofDays`: counting the days to the date of a day gives the day.
-/

namespace DepTriage.Date

/-- The year of an era that a day of the era lies in, counted from March. -/
def yearOfEra (day : Int) : Int :=
  (day - day / 1460 + day / 36524 - day / 146096) / 365

/-- The first day of a year of an era. -/
def firstDay (year : Int) : Int :=
  365 * year + year / 4 - year / 100

/-- The day of an era lies in its year. -/
theorem yearOfEra_bounds (day : Int) (hfirst : 0 ≤ day) (hlast : day < 146097) :
    (0 ≤ yearOfEra day ∧ yearOfEra day ≤ 399) ∧
      firstDay (yearOfEra day) ≤ day ∧ day ≤ firstDay (yearOfEra day) + 365 := by
  -- The last day of an era is the leap day that no other century has.
  by_cases hleap : day = 146096
  · subst hleap
    decide
  have hera : day / 146096 = 0 := by omega
  obtain ⟨century, hcentury⟩ : ∃ century, day / 36524 = century := ⟨_, rfl⟩
  obtain ⟨period, rest, hday, hrest, hperiod⟩ : ∃ period rest,
      day = 36524 * century + 1461 * period + rest ∧
        (0 ≤ rest ∧ rest ≤ 1460) ∧ 0 ≤ period ∧ period ≤ 24 :=
    ⟨(day - 36524 * century) / 1461, (day - 36524 * century) % 1461, by omega, by omega, by omega⟩
  have hperiods : day / 1460 = 25 * century + period ∨ day / 1460 = 25 * century + period + 1 := by
    omega
  obtain ⟨year, hyear⟩ : ∃ year, yearOfEra day = year := ⟨_, rfl⟩
  have hdef : (day - day / 1460 + century - 0) / 365 = year := by
    rw [← hyear, yearOfEra, hera, hcentury]
  have hyears : 100 * century + 4 * period ≤ year ∧ year ≤ 100 * century + 4 * period + 3 := by
    omega
  have hfour : year / 4 = 25 * century + period := by omega
  have hhundred : year / 100 = century := by omega
  simp only [hyear, firstDay, hfour, hhundred]
  omega

/-- The days to a date, from its year and its month counted from March. -/
theorem toDays_eq {d : Date} (era year month : Int) (hyear : 0 ≤ year ∧ year ≤ 399)
    (hdate : (d.month : Int) = month + 3 ∧ month < 10 ∧ 0 ≤ month ∧ d.year = year + era * 400 ∨
      (d.month : Int) = month - 9 ∧ 10 ≤ month ∧ month ≤ 11 ∧ d.year = year + era * 400 + 1) :
    d.toDays = era * 146097 + (firstDay year + ((153 * month + 2) / 5 + d.day - 1)) - 719468 := by
  obtain ⟨hmonth, hspring, hlow, hd⟩ | ⟨hmonth, hwinter, hhigh, hd⟩ := hdate
  · have hlate : ¬ d.month ≤ 2 := by omega
    have hera : (year + era * 400) / 400 = era := by omega
    have hrest : (year + era * 400) % 400 = year := by omega
    have hback : (d.month : Int) - 3 = month := by omega
    simp only [toDays, if_neg hlate, hd, hera, hrest, hback, firstDay]
    omega
  · have hearly : d.month ≤ 2 := by omega
    have hera : (year + era * 400 + 1 - 1) / 400 = era := by omega
    have hrest : (year + era * 400 + 1 - 1) % 400 = year := by omega
    have hback : (d.month : Int) + 9 = month := by omega
    simp only [toDays, if_pos hearly, hd, hera, hrest, hback, firstDay]
    omega

theorem daysInMonth_le (year : Int) (month : Nat) : daysInMonth year month ≤ 31 := by
  unfold daysInMonth
  split
  · split <;> omega
  · split <;> omega

/-- **Counting the days to the date of a day gives the day.** -/
theorem toDays_ofDays (days : Int) : (ofDays days).toDays = days := by
  -- Each quotient and remainder gets a name, so that `omega` sees variables.
  obtain ⟨era, hera⟩ : ∃ era, (days + 719468) / 146097 = era := ⟨_, rfl⟩
  obtain ⟨day, hday⟩ : ∃ day, (days + 719468) % 146097 = day := ⟨_, rfl⟩
  obtain ⟨hyear, hfirst, hlast⟩ := yearOfEra_bounds day (by omega) (by omega)
  obtain ⟨year, hyearOf⟩ : ∃ year, yearOfEra day = year := ⟨_, rfl⟩
  obtain ⟨place, hplace⟩ : ∃ place, day - firstDay year = place := ⟨_, rfl⟩
  obtain ⟨month, hmonth⟩ : ∃ month, (5 * place + 2) / 153 = month := ⟨_, rfl⟩
  rw [hyearOf] at hyear hfirst hlast
  have hmonths : 0 ≤ month ∧ month ≤ 11 ∧ (153 * month + 2) / 5 ≤ place := by omega
  have hdate : ofDays days = if month < 10 then
        ⟨year + era * 400, (month + 3).toNat, (place - (153 * month + 2) / 5 + 1).toNat⟩
      else ⟨year + era * 400 + 1, (month - 9).toNat,
        (place - (153 * month + 2) / 5 + 1).toNat⟩ := by
    subst hmonth hplace hyearOf hday hera
    rfl
  rw [hdate]
  split
  · next hspring =>
    rw [toDays_eq era year month hyear (.inl ⟨by simp; omega, hspring, by omega, rfl⟩)]
    dsimp only
    omega
  · next hwinter =>
    rw [toDays_eq era year month hyear (.inr ⟨by simp; omega, by omega, by omega, rfl⟩)]
    dsimp only
    omega

end DepTriage.Date
