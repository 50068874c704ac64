import Mintmark.Calendar.Date

/-!
# Months and days

Whatever the day, its date has a month from 1 to 12 and a day of the month from 1 to 31.
-/

namespace Mintmark.Date

/-- How far a day may lie behind the first of March before it, so that its month is one of twelve. -/
theorem dayOfYear_le {day : Nat} (lt : day < 146097) :
    let year := (day - day / 1460 + day / 36524 - day / 146096) / 365
    day - (365 * year + year / 4 - year / 100) ≤ 366 := by
  omega

theorem month_bounds (days : Int) : 1 ≤ (ofDays days).month ∧ (ofDays days).month ≤ 12 := by
  have bound : ((days + 719468) % 146097).toNat < 146097 := by omega
  have year := dayOfYear_le bound
  simp only [ofDays]
  generalize ((days + 719468) % 146097).toNat = day at *
  dsimp only at year
  generalize day - (365 * _ + _ / 4 - _ / 100) = dayOfYear at *
  split <;> omega

theorem day_bounds (days : Int) : 1 ≤ (ofDays days).day ∧ (ofDays days).day ≤ 31 := by
  simp only [ofDays]
  generalize ((days + 719468) % 146097).toNat = day
  generalize day - (365 * _ + _ / 4 - _ / 100) = dayOfYear
  omega

end Mintmark.Date
