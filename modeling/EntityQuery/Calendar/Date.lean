/-
# Dates

The proleptic Gregorian calendar as a count of days from 1970-01-01.  A year is
taken to begin in March, so that the leap day comes last and the months before
it have a regular length.
-/

namespace EntityQuery

/-- A day of the calendar; year 0 is the year before year 1. -/
structure Date where
  year : Int
  month : Nat
  day : Nat
  deriving DecidableEq, Repr

namespace Date

/-- Whether a year has a 29 February. -/
def isLeapYear (year : Int) : Bool :=
  year % 4 == 0 && (year % 100 != 0 || year % 400 == 0)

/-- The number of days of a month. -/
def monthLength (year : Int) (month : Nat) : Nat :=
  if month = 2 then if isLeapYear year then 29 else 28
  else if month = 4 ∨ month = 6 ∨ month = 9 ∨ month = 11 then 30
  else 31

/-- Whether the day exists. -/
def isValid (d : Date) : Bool :=
  1 ≤ d.month && d.month ≤ 12 && 1 ≤ d.day && d.day ≤ monthLength d.year d.month

/-- The days from 1970-01-01 to the date. -/
def toDays (d : Date) : Int :=
  let y := if d.month ≤ 2 then d.year - 1 else d.year
  let era := Int.fdiv y 400
  let yearOfEra := y - era * 400
  let month : Int := if 2 < d.month then d.month - 3 else d.month + 9
  let dayOfYear := (153 * month + 2) / 5 + d.day - 1
  let dayOfEra := yearOfEra * 365 + yearOfEra / 4 - yearOfEra / 100 + dayOfYear
  era * 146097 + dayOfEra - 719468

/-- The date a number of days after 1970-01-01. -/
def ofDays (days : Int) : Date :=
  let z := days + 719468
  let era := Int.fdiv z 146097
  let dayOfEra := z - era * 146097
  let yearOfEra := (dayOfEra - dayOfEra / 1460 + dayOfEra / 36524 - dayOfEra / 146096) / 365
  let dayOfYear := dayOfEra - (365 * yearOfEra + yearOfEra / 4 - yearOfEra / 100)
  let month := (5 * dayOfYear + 2) / 153
  let day := dayOfYear - (153 * month + 2) / 5 + 1
  let civilMonth := if month < 10 then month + 3 else month - 9
  let year := yearOfEra + era * 400
  ⟨if civilMonth ≤ 2 then year + 1 else year, civilMonth.toNat, day.toNat⟩

/-! ### Reading a number of days back -/

/-- The months of 31 days, counted from March, are the first, third and fifth of each five, which
share 153 days. -/
theorem le_thirty_or_long {year : Int} {month day : Nat} (hlow : 1 ≤ month) (hhigh : month ≤ 12)
    (hlast : day ≤ monthLength year month) {m : Int}
    (hm : m = if 2 < month then (month : Int) - 3 else month + 9) :
    day ≤ 30 ∨ day = 31 ∧ 2 ≤ (3 * m + 2) % 5 := by
  unfold monthLength at hlast
  split at hlast
  · split at hlast <;> omega
  · split at hlast
    · omega
    · have hlong : month = 1 ∨ month = 3 ∨ month = 5 ∨ month = 7 ∨ month = 8 ∨ month = 10 ∨
          month = 12 := by omega
      rcases hlong with rfl | rfl | rfl | rfl | rfl | rfl | rfl <;> simp at hm <;> omega

/-- The month, counted from March, of day `n` of a year. -/
theorem monthOfYear_eq {m n day : Int} (hfirst : 1 ≤ day)
    (hlast : day ≤ 30 ∨ day = 31 ∧ 2 ≤ (3 * m + 2) % 5)
    (hn : n = (153 * m + 2) / 5 + day - 1) :
    (5 * n + 2) / 153 = m := by
  have hpattern : (153 * m + 2) / 5 = 30 * m + (3 * m + 2) / 5 := by omega
  have hlow : 153 * m ≤ 5 * n + 2 := by omega
  have hhigh : 5 * n + 2 < 153 * (m + 1) := by omega
  omega

/-- A year has 365 days, and one more if its February, which belongs to the next year of the
calendar, has 29. -/
theorem dayOfYear_lt {year y m n : Int} {month day : Nat} (hlow : 1 ≤ month) (hhigh : month ≤ 12)
    (hlast : day ≤ monthLength year month) (hy : y = if month ≤ 2 then year - 1 else year)
    (hm : m = if 2 < month then (month : Int) - 3 else month + 9)
    (hn : n = (153 * m + 2) / 5 + day - 1) :
    n < 365 ∨ n = 365 ∧ (y % 400 + 1) % 4 = 0 ∧
      ((y % 400 + 1) % 100 ≠ 0 ∨ (y % 400 + 1) % 400 = 0) := by
  have hlong := le_thirty_or_long hlow hhigh hlast hm
  by_cases hfebruary : month = 2
  · subst hfebruary
    simp [monthLength, isLeapYear] at hlast hm hy
    split at hlast <;> omega
  · split at hm <;> omega

/-- The year of an era in which day `e` of the era lies. -/
theorem yearOfEra_eq {y n e : Int} (hy : 0 ≤ y) (hy' : y < 400) (hn : 0 ≤ n)
    (hlast : n < 365 ∨ n = 365 ∧ (y + 1) % 4 = 0 ∧ ((y + 1) % 100 ≠ 0 ∨ (y + 1) % 400 = 0))
    (he : y * 365 + y / 4 - y / 100 + n = e) :
    (e - e / 1460 + e / 36524 - e / 146096) / 365 = y := by
  obtain ⟨c, q, r, rfl, hc, hc', hq, hq', hr, hr'⟩ : ∃ c q r : Int, y = 100 * c + 4 * q + r ∧
      0 ≤ c ∧ c ≤ 3 ∧ 0 ≤ q ∧ q ≤ 24 ∧ 0 ≤ r ∧ r ≤ 3 :=
    ⟨y / 100, y % 100 / 4, y % 4, by omega⟩
  obtain ⟨s, hs⟩ : ∃ s, s = 365 * r + n := ⟨_, rfl⟩
  have he : e = 36524 * c + 1461 * q + s := by omega
  have hs' : s ≤ 1460 := by omega
  -- the last day of the era is the one day that lies after all of its centuries
  by_cases hend : c = 3 ∧ q = 24 ∧ s = 1460
  · obtain ⟨rfl, rfl, rfl⟩ := hend
    omega
  · have hcentury : 1461 * q + s < 36524 := by omega
    have hcenturies : e / 36524 = c := by omega
    have hera : e / 146096 = 0 := by omega
    have hquads : e / 1460 = 25 * c + q ∨ e / 1460 = 25 * c + q + 1 ∧ 1364 ≤ s := by omega
    rw [hcenturies, hera]
    omega

/-- **A day of the calendar is read back from its number.** -/
theorem ofDays_toDays {d : Date} (h : d.isValid) : ofDays (toDays d) = d := by
  obtain ⟨year, month, day⟩ := d
  simp only [isValid, Bool.and_eq_true, decide_eq_true_iff] at h
  obtain ⟨⟨⟨hlow, hhigh⟩, hfirst⟩, hlast⟩ := h
  obtain ⟨y, hy⟩ : ∃ y, y = if month ≤ 2 then year - 1 else year := ⟨_, rfl⟩
  obtain ⟨m, hm⟩ : ∃ m, m = if 2 < month then (month : Int) - 3 else month + 9 := ⟨_, rfl⟩
  obtain ⟨n, hn⟩ : ∃ n, n = (153 * m + 2) / 5 + day - 1 := ⟨_, rfl⟩
  obtain ⟨e, he⟩ : ∃ e, y % 400 * 365 + y % 400 / 4 - y % 400 / 100 + n = e := ⟨_, rfl⟩
  have hmonth : (5 * n + 2) / 153 = m :=
    monthOfYear_eq (by omega) (by have := le_thirty_or_long hlow hhigh hlast hm; omega) hn
  have hyear : (e - e / 1460 + e / 36524 - e / 146096) / 365 = y % 400 :=
    yearOfEra_eq (by omega) (by omega) (by split at hm <;> omega)
      (dayOfYear_lt hlow hhigh hlast hy hm hn) he
  have hdays : toDays ⟨year, month, day⟩ = y / 400 * 146097 + e - 719468 := by
    have hpart : y - y / 400 * 400 = y % 400 := by omega
    unfold toDays
    simp only [← hy, ← hm, ← hn, Int.fdiv_eq_ediv_of_nonneg y (show (0 : Int) ≤ 400 by decide),
      hpart, he]
  have hera : (y / 400 * 146097 + e - 719468 + 719468).fdiv 146097 = y / 400 := by
    have := dayOfYear_lt hlow hhigh hlast hy hm hn
    rw [Int.fdiv_eq_ediv_of_nonneg _ (by decide)]
    split at hm <;> omega
  have hdayOfEra : y / 400 * 146097 + e - 719468 + 719468 - y / 400 * 146097 = e := by omega
  have hdayOfYear : e - (365 * (y % 400) + y % 400 / 4 - y % 400 / 100) = n := by omega
  have hcivil : (if m < 10 then m + 3 else m - 9) = (month : Int) := by
    split at hm <;> split <;> omega
  have hcivilYear : (if (month : Int) ≤ 2 then y % 400 + y / 400 * 400 + 1
      else y % 400 + y / 400 * 400) = year := by
    split at hy <;> split <;> omega
  have hday : n - (153 * m + 2) / 5 + 1 = day := by omega
  unfold ofDays
  simp only [hdays, hera, hdayOfEra, hyear, hdayOfYear, hmonth, hcivil, hcivilYear, hday,
    Int.toNat_natCast]

example : ofDays (toDays ⟨2000, 2, 29⟩) = ⟨2000, 2, 29⟩ := by decide

end Date
end EntityQuery
