import EventRewards.Calendar.Date
import Mathlib.Order.Monotone.Basic
import Mathlib.Order.Nat
import Mathlib.Tactic.IntervalCases

/-!
# Days and civil dates

Counting the days up to a date undoes finding the date of a day, and the date of a day in use is one
that the calendar has.  A day is placed in three steps, in its era, in a year of the era and in a month
of the year, with years from March to February; each step is a division that its remainder is left
over from.
-/

namespace EventRewards
namespace Civil

/-! ## Years of an era -/

/-- The days of an era before one of its years. -/
def daysBeforeYear (year : Nat) : Nat :=
  365 * year + year / 4 - year / 100 + year / 400

/-- A day of an era, less the leap days before it, as far as it can be told where these are. -/
def withoutLeapDays (day : Nat) : Nat :=
  day - day / 1460 + day / 36524 - day / 146096

theorem withoutLeapDays_mono : Monotone withoutLeapDays := by
  refine monotone_nat_of_le_succ ?_
  intro day
  simp only [withoutLeapDays]
  omega

/-- Without leap days, the first and the last day of a year are in the year where each has 365. -/
theorem withoutLeapDays_ends : ∀ year < 400,
    365 * year ≤ withoutLeapDays (daysBeforeYear year) ∧
      withoutLeapDays (daysBeforeYear (year + 1) - 1) < 365 * (year + 1) := by
  decide +kernel

/-- The days between are in that year as well, since taking the leap days off keeps days in order. -/
theorem withoutLeapDays_div {year day : Nat} (hyear : year < 400)
    (first : daysBeforeYear year ≤ day) (last : day < daysBeforeYear (year + 1)) :
    withoutLeapDays day / 365 = year := by
  have hfirst : withoutLeapDays (daysBeforeYear year) ≤ withoutLeapDays day :=
    withoutLeapDays_mono first
  have hlast : withoutLeapDays day ≤ withoutLeapDays (daysBeforeYear (year + 1) - 1) :=
    withoutLeapDays_mono (by omega)
  have hends := withoutLeapDays_ends year hyear
  omega

/-- Every day of an era is in one of its 400 years. -/
theorem exists_year {day : Nat} (h : day < 146097) :
    ∃ year < 400, daysBeforeYear year ≤ day ∧ day < daysBeforeYear (year + 1) := by
  have hover : ∃ year, day < daysBeforeYear (year + 1) := ⟨399, h⟩
  -- the first year that is not over
  have hleast : day < daysBeforeYear (Nat.find hover + 1) := Nat.find_spec hover
  refine ⟨Nat.find hover, Nat.lt_succ_of_le (Nat.find_min' hover h), ?_, hleast⟩
  cases hyear : Nat.find hover with
  | zero => exact Nat.zero_le day
  | succ before => exact not_lt.1 (Nat.find_min hover (by omega))

/-! ## Years from March -/

/-- The date of a month and a day in the year that starts in the March of a civil year. -/
def fromMarch (year : Int) (month day : Nat) : Civil :=
  if month < 10 then ⟨year, month + 3, day⟩ else ⟨year + 1, month - 9, day⟩

/-- The month, counted from March, of a day of such a year. -/
def monthOfDay (dayOfYear : Nat) : Nat :=
  (5 * dayOfYear + 2) / 153

variable {era : Int} {year dayOfYear : Nat}

theorem dayOfYear_le (h : daysBeforeYear year + dayOfYear < daysBeforeYear (year + 1)) :
    dayOfYear ≤ 365 := by
  simp only [daysBeforeYear] at h
  omega

theorem monthOfDay_lt (h : dayOfYear ≤ 365) : monthOfDay dayOfYear < 12 := by
  simp only [monthOfDay]
  omega

theorem daysBeforeMonth_le (dayOfYear : Nat) :
    daysBeforeMonth (monthOfDay dayOfYear) ≤ dayOfYear := by
  simp only [daysBeforeMonth, monthOfDay]
  omega

/-- The date of a day, by its era, its year in the era and its day in the year. -/
theorem ofDays_eq_fromMarch (hyear : year < 400)
    (h : daysBeforeYear year + dayOfYear < daysBeforeYear (year + 1)) :
    ofDays (era * 146097 + (daysBeforeYear year + dayOfYear : Nat) - 719468) =
      fromMarch (year + era * 400) (monthOfDay dayOfYear)
        (dayOfYear - daysBeforeMonth (monthOfDay dayOfYear) + 1) := by
  have hlast : daysBeforeYear (year + 1) ≤ 146097 := by
    simp only [daysBeforeYear]
    omega
  have hera : (era * 146097 + (daysBeforeYear year + dayOfYear : Nat) - 719468 + 719468) /
      146097 = era := by
    omega
  have hdayOfEra : ((era * 146097 + (daysBeforeYear year + dayOfYear : Nat) - 719468 + 719468) %
      146097).toNat = daysBeforeYear year + dayOfYear := by
    omega
  have hyearOfEra := withoutLeapDays_div hyear (Nat.le_add_right _ dayOfYear) h
  have hdayOfYear : daysBeforeYear year + dayOfYear - (365 * year + year / 4 - year / 100) =
      dayOfYear := by
    simp only [daysBeforeYear]
    omega
  have hmonthOfDay : (5 * dayOfYear + 2) / 153 = monthOfDay dayOfYear := rfl
  simp only [withoutLeapDays] at hyearOfEra
  simp only [ofDays, hera, hdayOfEra, hyearOfEra, hdayOfYear, hmonthOfDay, fromMarch]
  have hmonth := monthOfDay_lt (dayOfYear_le h)
  -- the months up to December are of the year in which March was
  by_cases hbefore : monthOfDay dayOfYear < 10
  · have hmarch : ¬monthOfDay dayOfYear + 3 ≤ 2 := by omega
    simp only [hbefore, hmarch, if_true, if_false]
  · have hjanuary : monthOfDay dayOfYear - 9 ≤ 2 := by omega
    simp only [hbefore, hjanuary, if_true, if_false]

theorem toDays_fromMarch (year : Int) {month : Nat} (hmonth : month < 12) (day : Nat) :
    (fromMarch year month day).toDays = year / 400 * 146097 +
      (year % 400 * 365 + year % 400 / 4 - year % 400 / 100 +
        ((daysBeforeMonth month : Int) + day - 1)) - 719468 := by
  rw [fromMarch]
  by_cases hbefore : month < 10
  · have hmarch : ¬month + 3 ≤ 2 := by omega
    simp only [hbefore, hmarch, toDays, if_true, if_false, Nat.add_sub_cancel]
  · have hjanuary : month - 9 ≤ 2 := by omega
    have hsame : month - 9 + 9 = month := by omega
    simp only [hbefore, hjanuary, hsame, toDays, if_true, if_false, add_sub_cancel_right]

/-- Every day has an era, a year of the era and a day of the year. -/
theorem exists_place (days : Int) : ∃ (era : Int) (year dayOfYear : Nat), year < 400 ∧
    daysBeforeYear year + dayOfYear < daysBeforeYear (year + 1) ∧
    days = era * 146097 + (daysBeforeYear year + dayOfYear : Nat) - 719468 := by
  have hday : ((days + 719468) % 146097).toNat < 146097 := by omega
  rcases exists_year hday with ⟨year, hyear, hfirst, hlast⟩
  refine ⟨(days + 719468) / 146097, year,
    ((days + 719468) % 146097).toNat - daysBeforeYear year, hyear, ?_, ?_⟩
  · omega
  · omega

/-- Counting the days up to the date of a day gives the day. -/
theorem toDays_ofDays (days : Int) : (ofDays days).toDays = days := by
  rcases exists_place days with ⟨era, year, dayOfYear, hyear, hday, rfl⟩
  have hmonth := monthOfDay_lt (dayOfYear_le hday)
  have hbefore := daysBeforeMonth_le dayOfYear
  rw [ofDays_eq_fromMarch hyear hday, toDays_fromMarch _ hmonth]
  simp only [daysBeforeYear]
  omega

/-! ## Dates that the calendar has -/

/-- The days of a month counted from March; its last one is of the civil year after. -/
def daysFromMarch (year : Int) (month : Nat) : Nat :=
  if month < 10 then daysInMonth year (month + 3) else daysInMonth (year + 1) (month - 9)

/-- The day of a month is within the month.  Day 365 is the leap day, which not every year has. -/
theorem day_le_daysFromMarch (year : Int) (h : dayOfYear ≤ 365)
    (leap : dayOfYear = 365 → isLeap (year + 1) = true) :
    dayOfYear - daysBeforeMonth (monthOfDay dayOfYear) + 1 ≤
      daysFromMarch year (monthOfDay dayOfYear) := by
  have hmonth := monthOfDay_lt h
  have hbounds : monthOfDay dayOfYear * 153 ≤ 5 * dayOfYear + 2 ∧
      5 * dayOfYear + 2 < (monthOfDay dayOfYear + 1) * 153 := by
    simp only [monthOfDay]
    omega
  generalize monthOfDay dayOfYear = month at hmonth hbounds ⊢
  interval_cases month
  case «11» =>
    by_cases hleap : isLeap (year + 1) = true
    · simp [daysFromMarch, daysInMonth, daysBeforeMonth, hleap]
      omega
    · have hlast : dayOfYear ≠ 365 := fun hlast => hleap (leap hlast)
      simp [daysFromMarch, daysInMonth, daysBeforeMonth, hleap]
      omega
  all_goals
    simp [daysFromMarch, daysInMonth, daysBeforeMonth]
    omega

/-- A year with a day 365 ends with a leap day. -/
theorem isLeap_of_last (hyear : year < 400)
    (h : daysBeforeYear year + 365 < daysBeforeYear (year + 1)) :
    isLeap ((year + era * 400 : Int) + 1) = true := by
  simp only [daysBeforeYear] at h
  simp only [isLeap, Bool.and_eq_true, Bool.or_eq_true, decide_eq_true_eq, ne_eq]
  omega

theorem isValid_fromMarch {year : Int} {month day : Nat} (hmonth : month < 12)
    (hday : 1 ≤ day ∧ day ≤ daysFromMarch year month)
    (hfirst : firstYear ≤ (fromMarch year month day).year)
    (hlast : (fromMarch year month day).year ≤ lastYear) :
    (fromMarch year month day).isValid = true := by
  simp only [isValid, Bool.and_eq_true, decide_eq_true_eq]
  by_cases hbefore : month < 10
  · simp only [fromMarch, daysFromMarch, hbefore, if_true] at hday hfirst hlast ⊢
    exact ⟨⟨⟨⟨⟨hfirst, hlast⟩, by omega⟩, by omega⟩, hday.1⟩, hday.2⟩
  · simp only [fromMarch, daysFromMarch, hbefore, if_false] at hday hfirst hlast ⊢
    exact ⟨⟨⟨⟨⟨hfirst, hlast⟩, by omega⟩, by omega⟩, hday.1⟩, hday.2⟩

/-- The first day in use is a first of January, day 306 of the year from March. -/
theorem first_place (hyear : year < 400)
    (h : firstDay ≤ era * 146097 + (daysBeforeYear year + dayOfYear : Nat) - 719468)
    (hdays : dayOfYear ≤ 365) :
    firstYear ≤ year + era * 400 ∨ firstYear = year + era * 400 + 1 ∧ 306 ≤ dayOfYear := by
  simp only [daysBeforeYear, Nat.div_eq_of_lt hyear, firstDay] at h
  simp only [firstYear]
  have hera : -656 ≤ era := by omega
  rcases eq_or_lt_of_le hera with rfl | hlater
  · omega
  · omega

/-- The last day in use is a last of December, day 305 of the year from March. -/
theorem last_place (hyear : year < 400)
    (h : era * 146097 + (daysBeforeYear year + dayOfYear : Nat) - 719468 ≤ lastDay) :
    year + era * 400 < lastYear ∨ year + era * 400 = lastYear ∧ dayOfYear ≤ 305 := by
  simp only [daysBeforeYear, Nat.div_eq_of_lt hyear, lastDay] at h
  simp only [lastYear]
  have hera : era ≤ 655 := by omega
  rcases eq_or_lt_of_le hera with rfl | hearlier
  · omega
  · omega

/-- The days in use are those of the years in use. -/
theorem year_fromMarch_bounds (day : Nat) (hyear : year < 400) (hdays : dayOfYear ≤ 365)
    (hfirst : firstDay ≤ era * 146097 + (daysBeforeYear year + dayOfYear : Nat) - 719468)
    (hlast : era * 146097 + (daysBeforeYear year + dayOfYear : Nat) - 719468 ≤ lastDay) :
    firstYear ≤ (fromMarch (year + era * 400) (monthOfDay dayOfYear) day).year ∧
      (fromMarch (year + era * 400) (monthOfDay dayOfYear) day).year ≤ lastYear := by
  have hfrom := first_place hyear hfirst hdays
  have hto := last_place hyear hlast
  by_cases hbefore : monthOfDay dayOfYear < 10
  · simp only [fromMarch, hbefore, if_true]
    simp only [monthOfDay] at hbefore
    omega
  · simp only [fromMarch, hbefore, if_false]
    simp only [monthOfDay] at hbefore
    omega

/-- The date of a day in use is one that the calendar has. -/
theorem isValid_ofDays {days : Int} (hfirst : firstDay ≤ days) (hlast : days ≤ lastDay) :
    (ofDays days).isValid = true := by
  rcases exists_place days with ⟨era, year, dayOfYear, hyear, hday, rfl⟩
  have hdays := dayOfYear_le hday
  have hbounds := year_fromMarch_bounds
    (dayOfYear - daysBeforeMonth (monthOfDay dayOfYear) + 1) hyear hdays hfirst hlast
  rw [ofDays_eq_fromMarch hyear hday]
  refine isValid_fromMarch (monthOfDay_lt hdays) ⟨Nat.le_add_left 1 _, ?_⟩ hbounds.1 hbounds.2
  refine day_le_daysFromMarch _ hdays ?_
  rintro rfl
  exact isLeap_of_last hyear hday

end Civil
end EventRewards
