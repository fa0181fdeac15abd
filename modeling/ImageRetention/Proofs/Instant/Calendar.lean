import Mathlib.Tactic
import ImageRetention.Instant

/-!
Days and dates tell the same.

An era has 400 years, counted from March, and `yearOfEra` finds the year in which a day of it
lies.  That year is right on the first and on the last day of each year, and it never falls from
one day to a later one, so it is right on every day between them.

* `yearStart_le`, `le_yearEnd`: the day lies in the year that is found;
* `Date.exists_ofDays`: the date of a day exists;
* `Date.toDays_ofDays`: and it is the date of that day.
-/

namespace ImageRetention.Calendar

/-! ### Years of an era -/

/-- The year of an era, counted from March, in which a day of it lies. -/
def yearOfEra (day : ℕ) : ℕ := (day - day / 1460 + day / 36524 - day / 146096) / 365

/-- The first day of a year of an era. -/
def yearStart (year : ℕ) : ℕ := 365 * year + year / 4 - year / 100

/-- Whether a year of an era ends with a leap day.  It ends in the calendar year after it. -/
def EndsLeap (year : ℕ) : Prop :=
  (year + 1) % 4 = 0 ∧ ((year + 1) % 100 ≠ 0 ∨ (year + 1) % 400 = 0)

instance : DecidablePred EndsLeap := fun _ => inferInstanceAs (Decidable (_ ∧ _))

/-- The last day of a year of an era. -/
def yearEnd (year : ℕ) : ℕ := yearStart year + if EndsLeap year then 365 else 364

/-- The year that is found never falls. -/
lemma yearOfEra_mono {day later : ℕ} (h : day ≤ later) (hlater : later < 146097) :
    yearOfEra day ≤ yearOfEra later :=
  Nat.div_le_div_right (by omega)

lemma yearOfEra_ends :
    ∀ year < 400, yearOfEra (yearStart year) = year ∧ yearOfEra (yearEnd year) = year := by
  decide +kernel

lemma yearEnd_lt : ∀ year < 400, yearEnd year < 146097 := by decide +kernel

lemma yearEnd_add_one : ∀ year < 399, yearEnd year + 1 = yearStart (year + 1) := by
  decide +kernel

lemma yearOfEra_lt {day : ℕ} (hday : day < 146097) : yearOfEra day < 400 := by
  have hmono := yearOfEra_mono (Nat.le_of_lt_succ hday) (by decide)
  exact hmono.trans_lt (by decide)

/-- A day does not lie before the year that is found. -/
lemma yearStart_le {day : ℕ} (hday : day < 146097) : yearStart (yearOfEra day) ≤ day := by
  by_contra! hbefore
  have hyear := yearOfEra_lt hday
  cases hfound : yearOfEra day with
  | zero => simp [hfound, yearStart] at hbefore
  | succ year =>
      rw [hfound] at hbefore hyear
      have hend := yearEnd_add_one year (by omega)
      have hle : day ≤ yearEnd year := by omega
      have hmono := yearOfEra_mono hle (yearEnd_lt year (by omega))
      rw [(yearOfEra_ends year (by omega)).2, hfound] at hmono
      omega

/-- Nor after it. -/
lemma le_yearEnd {day : ℕ} (hday : day < 146097) : day ≤ yearEnd (yearOfEra day) := by
  by_contra! hafter
  have hyear := yearOfEra_lt hday
  by_cases hlast : yearOfEra day = 399
  · rw [hlast] at hafter
    have hend : yearEnd 399 = 146096 := by decide
    omega
  · have hstart := yearEnd_add_one (yearOfEra day) (by omega)
    have hle : yearStart (yearOfEra day + 1) ≤ day := by omega
    have hmono := yearOfEra_mono hle hday
    rw [(yearOfEra_ends _ (by omega)).1] at hmono
    omega

/-! ### Months of a year -/

/-- The month, counted from March, in which a day of a year lies. -/
def monthFromMarch (day : ℕ) : ℕ := (5 * day + 2) / 153

/-- The number of a month that is counted from March. -/
def monthNumber (month : ℕ) : ℕ := if month < 10 then month + 3 else month - 9

/-- The day of its month, counted from one, that a day of a year is. -/
def dayOfMonth (day : ℕ) : ℕ := day - (153 * monthFromMarch day + 2) / 5 + 1

lemma monthFromMarch_lt {day : ℕ} (hday : day < 366) : monthFromMarch day < 12 := by
  rw [monthFromMarch]
  omega

lemma monthNumber_add_nine {month : ℕ} (hmonth : month < 12) :
    (monthNumber month + 9) % 12 = month := by
  rw [monthNumber]
  split_ifs <;> omega

lemma add_dayOfMonth (day : ℕ) :
    (153 * monthFromMarch day + 2) / 5 + dayOfMonth day = day + 1 := by
  rw [dayOfMonth, monthFromMarch]
  omega

lemma daysInMonth_congr {year other : Int} (h : isLeapYear year = isLeapYear other) (month : ℕ) :
    daysInMonth year month = daysInMonth other month := by
  unfold daysInMonth
  rw [h]

/-- A day lies in the month that is found; the 366th day of a year wants a leap year. -/
lemma dayOfMonth_le {year : Int} {day : ℕ} (hday : day < 366)
    (hleap : day = 365 → isLeapYear year = true) :
    dayOfMonth day ≤ daysInMonth year (monthNumber (monthFromMarch day)) := by
  have hlong : ∀ day < 366,
      dayOfMonth day ≤ daysInMonth 2000 (monthNumber (monthFromMarch day)) := by
    decide +kernel
  have hshort : ∀ day < 365,
      dayOfMonth day ≤ daysInMonth 2001 (monthNumber (monthFromMarch day)) := by
    decide +kernel
  cases hyear : isLeapYear year with
  | true =>
    rw [daysInMonth_congr (hyear.trans (by decide : true = isLeapYear 2000))]
    exact hlong day hday
  | false =>
    have hne : day ≠ 365 := fun heq => by simp [hleap heq] at hyear
    rw [daysInMonth_congr (hyear.trans (by decide : false = isLeapYear 2001))]
    exact hshort day (by omega)

lemma daysInMonth_bounds {year : Int} {month : ℕ} (h : 0 < daysInMonth year month) :
    1 ≤ month ∧ month ≤ 12 ∧ daysInMonth year month ≤ 31 := by
  unfold daysInMonth at h ⊢
  split at h
  · split <;> simp
  all_goals simp_all

/-- A date that exists has a month and a day that can be written in two digits. -/
lemma Date.bounds_of_exists {date : Date} (h : date.exists = true) :
    (1 ≤ date.month ∧ date.month ≤ 12) ∧ 1 ≤ date.day ∧ date.day ≤ 31 := by
  rw [Date.exists, Bool.and_eq_true, decide_eq_true_eq, decide_eq_true_eq] at h
  obtain ⟨hleast, hmost, hdays⟩ := daysInMonth_bounds (h.1.trans h.2)
  exact ⟨⟨hleast, hmost⟩, h.1, h.2.trans hdays⟩

/-! ### Dates of days -/

section

variable (days : Int)

/-- The day of its era that a day is. -/
def dayOfEra : ℕ := ((days + 719468) % 146097).toNat

/-- The day of its year, counted from March, that a day is. -/
def dayOfYear : ℕ := dayOfEra days - yearStart (yearOfEra (dayOfEra days))

lemma dayOfEra_lt : dayOfEra days < 146097 := by
  rw [dayOfEra]
  omega

lemma dayOfEra_eq : dayOfEra days = yearStart (yearOfEra (dayOfEra days)) + dayOfYear days := by
  have hle := yearStart_le (dayOfEra_lt days)
  rw [dayOfYear]
  omega

lemma dayOfYear_lt : dayOfYear days < 366 := by
  have hle := le_yearEnd (dayOfEra_lt days)
  have heq := dayOfEra_eq days
  rw [yearEnd] at hle
  split_ifs at hle <;> omega

/-- Only a year that ends with a leap day has a 366th day. -/
lemma endsLeap_of_dayOfYear (h : dayOfYear days = 365) : EndsLeap (yearOfEra (dayOfEra days)) := by
  have hle := le_yearEnd (dayOfEra_lt days)
  have heq := dayOfEra_eq days
  by_contra hleap
  rw [yearEnd, if_neg hleap] at hle
  omega

/-- The year, counted from March, in which a day lies. -/
def yearFromMarch : Int := yearOfEra (dayOfEra days) + (days + 719468) / 146097 * 400

lemma Date.ofDays_eq : Date.ofDays days =
    ⟨if monthNumber (monthFromMarch (dayOfYear days)) ≤ 2 then yearFromMarch days + 1
      else yearFromMarch days, monthNumber (monthFromMarch (dayOfYear days)),
      dayOfMonth (dayOfYear days)⟩ := rfl

lemma isLeapYear_of_endsLeap (h : EndsLeap (yearOfEra (dayOfEra days))) :
    isLeapYear (yearFromMarch days + 1) = true := by
  obtain ⟨hfour, hcentury⟩ := h
  simp only [isLeapYear, yearFromMarch, Bool.and_eq_true, Bool.or_eq_true, beq_iff_eq, bne_iff_ne]
  omega

/-- The date of a day exists. -/
theorem Date.exists_ofDays : (Date.ofDays days).exists = true := by
  rw [Date.ofDays_eq, Date.exists, Bool.and_eq_true, decide_eq_true_eq, decide_eq_true_eq]
  refine ⟨Nat.le_add_left 1 _, dayOfMonth_le (dayOfYear_lt days) fun hlast => ?_⟩
  have hmonth : monthNumber (monthFromMarch (dayOfYear days)) ≤ 2 := by
    rw [hlast]
    decide
  rw [if_pos hmonth]
  exact isLeapYear_of_endsLeap days (endsLeap_of_dayOfYear days hlast)

/-- The days to the date of a day are the days to that day. -/
theorem Date.toDays_ofDays : (Date.ofDays days).toDays = days := by
  have hyear := yearOfEra_lt (dayOfEra_lt days)
  have heq := dayOfEra_eq days
  have hmonth := monthNumber_add_nine (monthFromMarch_lt (dayOfYear_lt days))
  have hday := add_dayOfMonth (dayOfYear days)
  have hyears : (if monthNumber (monthFromMarch (dayOfYear days)) ≤ 2 then
      (Date.ofDays days).year - 1 else (Date.ofDays days).year) = yearFromMarch days := by
    rw [Date.ofDays_eq]
    split_ifs <;> simp
  -- the parts of the year are those of the day, as the year of an era is less than 400
  have hera : yearFromMarch days / 400 = (days + 719468) / 146097 := by
    rw [yearFromMarch]
    omega
  have hyearOfEra : yearFromMarch days % 400 = yearOfEra (dayOfEra days) := by
    rw [yearFromMarch]
    omega
  have hshifted : (days + 719468) / 146097 * 146097 + dayOfEra days = days + 719468 := by
    rw [dayOfEra]
    omega
  rw [Date.ofDays_eq] at hyears
  rw [Date.ofDays_eq, Date.toDays]
  simp only [hyears, hmonth, hera, hyearOfEra]
  rw [yearStart] at heq
  omega

end

end ImageRetention.Calendar
