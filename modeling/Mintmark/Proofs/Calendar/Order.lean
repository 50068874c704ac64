import Mintmark.Proofs.Calendar.Date

/-!
# The order of dates

Later days have later dates. Within four hundred years a day is reckoned in centuries, in times of four
years and in years, of which the last one of each may be a day longer; this count gives the year that
starts in March. In such a year the leap day comes last, so months and days go on as they would in any
other.
-/

namespace Mintmark.Date

/-- A day of four hundred years, told by the centuries, the times of four years, the years and the
days before it. -/
structure Reckoned (day c f y r : Nat) : Prop where
  sum : day = 36524 * c + 1461 * f + 365 * y + r
  centuries : c ≤ 3
  fours : f ≤ 24
  years : y ≤ 3
  /-- A year has one day more if it is the last one of four, but not the last one of a century, or
  else the last one of all. -/
  rest : r < 365 ∨ r = 365 ∧ y = 3 ∧ (f < 24 ∨ c = 3)

theorem exists_reckoned {day : Nat} (lt : day < 146097) : ∃ c f y r, Reckoned day c f y r := by
  -- a leap day would start a fifth year or century, but belongs to the fourth, which it ends
  obtain ⟨c, century⟩ : ∃ c, c = min (day / 36524) 3 := ⟨_, rfl⟩
  obtain ⟨s, within⟩ : ∃ s, s = day - 36524 * c := ⟨_, rfl⟩
  obtain ⟨y, year⟩ : ∃ y, y = min (s % 1461 / 365) 3 := ⟨_, rfl⟩
  refine ⟨c, s / 1461, y, s % 1461 - 365 * y, ?_, ?_, ?_, ?_, ?_⟩ <;> omega

namespace Reckoned

variable {day c f y r : Nat} (reckoned : Reckoned day c f y r)
include reckoned

/-- A day more is taken off for every four years, and at the very end of the last of them. -/
theorem div_fours : day / 1460 = 25 * c + f + (24 * c + f + 365 * y + r) / 1460 := by
  have split : day = 1460 * (25 * c + f) + (24 * c + f + 365 * y + r) := by
    rw [reckoned.sum]
    omega
  rw [split, Nat.mul_add_div (by decide)]

theorem div_centuries : day / 36524 = c + day / 146096 := by
  obtain ⟨s, within⟩ : ∃ s, s = 1461 * f + 365 * y + r := ⟨_, rfl⟩
  have sum := reckoned.sum
  have last : s < 36524 ∨ s = 36524 ∧ c = 3 := by
    have := reckoned.fours
    have := reckoned.years
    have := reckoned.rest
    omega
  have := reckoned.centuries
  omega

/-- The leap days taken off, the years are of one length. -/
theorem year_eq :
    (day - day / 1460 + day / 36524 - day / 146096) / 365 = 100 * c + 4 * f + y := by
  rw [reckoned.div_fours, reckoned.div_centuries]
  obtain ⟨sum, centuries, fours, years, rest⟩ := reckoned
  obtain ⟨s, before⟩ : ∃ s, s = 24 * c + f + 365 * y := ⟨_, rfl⟩
  have early : s ≤ 1191 := by omega
  have last : r = 365 → 1095 ≤ s := by omega
  rw [← before]
  obtain ⟨e, extra⟩ : ∃ e, e = (s + r) / 1460 := ⟨_, rfl⟩
  have le : e ≤ r := by omega
  have lt : r - e < 365 := by omega
  -- what the last day of all adds to the centuries is taken off again, and only `e` is left
  have even : day - (25 * c + f + e) + (c + day / 146096) - day / 146096 =
      365 * (100 * c + 4 * f + y) + (r - e) := by
    clear extra early last rest lt
    omega
  rw [← extra, even, Nat.mul_add_div (by decide), Nat.div_eq_of_lt lt, Nat.add_zero]

end Reckoned

/-- The days from the first of March of the year 0 to that of a year. -/
def daysToMarch (year : Int) : Int := 365 * year + year / 4 - year / 100 + year / 400

theorem daysToMarch_le {year year' : Int} (lt : year < year') :
    daysToMarch (year + 1) ≤ daysToMarch year' := by
  unfold daysToMarch
  omega

theorem daysToMarch_eq {year era : Int} {c f y : Nat}
    (split : year = 400 * era + (100 * c + 4 * f + y : Nat)) (centuries : c ≤ 3) (fours : f ≤ 24)
    (years : y ≤ 3) :
    daysToMarch year = 146097 * era + 36524 * c + 1461 * f + 365 * y := by
  have four : year / 4 = 100 * era + 25 * c + f := by omega
  have century : year / 100 = 4 * era + c := by omega
  have last : year / 400 = era := by omega
  rw [daysToMarch, four, century, last]
  omega

/-- A reckoned day comes before the next year starts. That is the next of four, or starts the next
four, the next century or the next four hundred years. -/
theorem Reckoned.lt_daysToMarch {day c f y r : Nat} (reckoned : Reckoned day c f y r)
    {year era : Int} (split : year = 400 * era + (100 * c + 4 * f + y : Nat)) :
    146097 * era + day < daysToMarch (year + 1) := by
  obtain ⟨sum, centuries, fours, years, rest⟩ := reckoned
  rcases Nat.lt_or_eq_of_le years with within | rfl
  · have split' : year + 1 = 400 * era + (100 * c + 4 * f + (y + 1) : Nat) := by omega
    have next := daysToMarch_eq split' centuries fours within
    omega
  rcases Nat.lt_or_eq_of_le fours with within | rfl
  · have split' : year + 1 = 400 * era + (100 * c + 4 * (f + 1) + 0 : Nat) := by omega
    have next := daysToMarch_eq split' centuries within (by decide)
    omega
  rcases Nat.lt_or_eq_of_le centuries with within | rfl
  · have split' : year + 1 = 400 * era + (100 * (c + 1) + 4 * 0 + 0 : Nat) := by omega
    have next := daysToMarch_eq split' within (by decide) (by decide)
    omega
  · have split' : year + 1 = 400 * (era + 1) + (100 * 0 + 4 * 0 + 0 : Nat) := by omega
    have next := daysToMarch_eq split' (by decide) (by decide) (by decide)
    omega

theorem Reckoned.dayOfYear_eq {day c f y r : Nat} (reckoned : Reckoned day c f y r) {n : Nat}
    (whole : n = 100 * c + 4 * f + y) : day - (365 * n + n / 4 - n / 100) = r := by
  obtain ⟨sum, centuries, fours, years, -⟩ := reckoned
  have four : n / 4 = 25 * c + f := by omega
  have century : n / 100 = c := by omega
  omega

/-- The date on a day of the year that starts in March. -/
def ofMarch (year : Int) (dayOfYear : Nat) : Date :=
  let monthFromMarch := (5 * dayOfYear + 2) / 153
  let month := if monthFromMarch < 10 then monthFromMarch + 3 else monthFromMarch - 9
  { year := year + (if month ≤ 2 then 1 else 0)
    month
    day := dayOfYear - (153 * monthFromMarch + 2) / 5 + 1 }

/-- Every day lies in a year that starts in March. -/
theorem exists_ofMarch (days : Int) :
    ∃ (year : Int) (dayOfYear : Nat), ofDays days = ofMarch year dayOfYear ∧
      days + 719468 = daysToMarch year + dayOfYear ∧ days + 719468 < daysToMarch (year + 1) := by
  obtain ⟨shifted, moved⟩ : ∃ shifted, shifted = days + 719468 := ⟨_, rfl⟩
  obtain ⟨era, whole⟩ : ∃ era, era = shifted / 146097 := ⟨_, rfl⟩
  obtain ⟨day, inside⟩ : ∃ day, day = (shifted % 146097).toNat := ⟨_, rfl⟩
  have sum : shifted = 146097 * era + day := by omega
  obtain ⟨c, f, y, r, reckoned⟩ := exists_reckoned (show day < 146097 by omega)
  obtain ⟨n, split⟩ : ∃ n, n = 100 * c + 4 * f + y := ⟨_, rfl⟩
  have year : (400 * era + n : Int) = 400 * era + (100 * c + 4 * f + y : Nat) := by rw [split]
  refine ⟨400 * era + n, r, ?_, ?_, ?_⟩
  · have yearOfEra : (day - day / 1460 + day / 36524 - day / 146096) / 365 = n :=
      reckoned.year_eq.trans split.symm
    have dayOfYear : day - (365 * n + n / 4 - n / 100) = r := reckoned.dayOfYear_eq split
    have ordered : (n : Int) + era * 400 = 400 * era + n := by omega
    simp only [ofDays, ofMarch, ← moved, ← whole, ← inside, yearOfEra, dayOfYear, ordered]
  · have start := daysToMarch_eq year reckoned.centuries reckoned.fours reckoned.years
    have := reckoned.sum
    omega
  · have := reckoned.lt_daysToMarch year
    omega

/-- A year that starts in March has at most 366 days. -/
theorem daysToMarch_succ_le (year : Int) : daysToMarch (year + 1) ≤ daysToMarch year + 366 := by
  unfold daysToMarch
  omega

/-- Years first, then months, then days. -/
def Before (a b : Date) : Prop :=
  a.year < b.year ∨
    a.year = b.year ∧ (a.month < b.month ∨ a.month = b.month ∧ a.day < b.day)

/-- The months since the start of the year 0. -/
def months (d : Date) : Int := 12 * d.year + d.month

theorem before_of_months {a b : Date} (earlier : a.months < b.months)
    (bounds : 1 ≤ a.month ∧ a.month ≤ 12) (bounds' : 1 ≤ b.month ∧ b.month ≤ 12) :
    a.Before b := by
  unfold months at earlier
  unfold Before
  omega

section March

variable {year year' : Int} {day day' : Nat}

theorem ofMarch_month_bounds (lt : day < 366) :
    1 ≤ (ofMarch year day).month ∧ (ofMarch year day).month ≤ 12 := by
  dsimp only [ofMarch]
  split <;> omega

/-- January and February belong to the next year, so the months go on without a gap. -/
theorem ofMarch_months (year : Int) (lt : day < 366) :
    (ofMarch year day).months = 12 * year + ((5 * day + 2) / 153 : Nat) + 3 := by
  obtain ⟨m, month⟩ : ∃ m, m = (5 * day + 2) / 153 := ⟨_, rfl⟩
  have inside : m < 12 := by omega
  simp only [months, ofMarch, ← month]
  clear month
  by_cases early : m < 10
  · rw [if_pos early, if_neg (by omega)]
    omega
  · rw [if_neg early, if_pos (by omega)]
    omega

theorem ofMarch_before_of_day (earlier : day < day') (lt : day' < 366) :
    (ofMarch year day).Before (ofMarch year day') := by
  have first : day < 366 := Nat.lt_trans earlier lt
  have le : (5 * day + 2) / 153 ≤ (5 * day' + 2) / 153 :=
    Nat.div_le_div_right (by omega)
  rcases Nat.lt_or_eq_of_le le with before | same
  · apply before_of_months _ (ofMarch_month_bounds first) (ofMarch_month_bounds lt)
    rw [ofMarch_months year first, ofMarch_months year lt]
    omega
  · -- within one month the days go on, as neither lies before its first
    have start : (153 * ((5 * day + 2) / 153) + 2) / 5 ≤ day := by omega
    right
    simp only [ofMarch, ← same, true_and]
    right
    omega

theorem ofMarch_before_of_year (earlier : year < year') (lt : day < 366) (lt' : day' < 366) :
    (ofMarch year day).Before (ofMarch year' day') := by
  apply before_of_months _ (ofMarch_month_bounds lt) (ofMarch_month_bounds lt')
  have inside : (5 * day + 2) / 153 < 12 := by omega
  rw [ofMarch_months year lt, ofMarch_months year' lt']
  omega

end March

/-- A later day has a later date. -/
theorem ofDays_before {days days' : Int} (earlier : days < days') :
    (ofDays days).Before (ofDays days') := by
  obtain ⟨year, day, date, sum, next⟩ := exists_ofMarch days
  obtain ⟨year', day', date', sum', next'⟩ := exists_ofMarch days'
  have lt : day < 366 := by
    have := daysToMarch_succ_le year
    omega
  have lt' : day' < 366 := by
    have := daysToMarch_succ_le year'
    omega
  rw [date, date']
  rcases Int.lt_trichotomy year year' with before | same | after
  · exact ofMarch_before_of_year before lt lt'
  · subst same
    apply ofMarch_before_of_day _ lt'
    omega
  · have le : daysToMarch (year' + 1) ≤ daysToMarch year := daysToMarch_le after
    omega

end Mintmark.Date
