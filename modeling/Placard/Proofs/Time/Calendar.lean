import Mathlib.Data.Nat.Init
import Placard.Time.Calendar

/-!
# Days and weekdays

The days of the calendar follow one another, and so do the days of the week, without a break: the
first day of all, the first of January of year one, is a Monday, and the day after a day has the next
weekday. This is how `IsWeekday` says which day of the week a date is. Computing it from the number
of the day comes to the same (`isWeekday_iff`).
-/

namespace Placard.Time

/-- Whether a date is a day of the calendar. -/
structure Date.IsDay (d : Date) : Prop where
  year : 1 ≤ d.year
  month : 1 ≤ d.month ∧ d.month ≤ 12
  day : 1 ≤ d.day ∧ d.day ≤ daysInMonth d.year d.month

/-- The day after a day. -/
def Date.next (d : Date) : Date :=
  if d.day < daysInMonth d.year d.month then { d with day := d.day + 1 }
  else if d.month < 12 then { year := d.year, month := d.month + 1, day := 1 }
  else { year := d.year + 1, month := 1, day := 1 }

/-- Which day of the week a date is, Monday being zero. -/
inductive IsWeekday : Date → Nat → Prop
  | first : IsWeekday { year := 1, month := 1, day := 1 } 0
  | next {d : Date} {weekday : Nat} : IsWeekday d weekday → IsWeekday d.next ((weekday + 1) % 7)

theorem one_le_daysInMonth (year month : Nat) : 1 ≤ daysInMonth year month := by
  unfold daysInMonth
  split
  · split <;> decide
  · split <;> decide

theorem daysInMonth_le (year month : Nat) : daysInMonth year month ≤ 31 := by
  unfold daysInMonth
  split
  · split <;> decide
  · split <;> decide

theorem Date.next_within {year month day : Nat} (h : day < daysInMonth year month) :
    Date.next { year, month, day } = { year, month, day := day + 1 } :=
  if_pos h

theorem Date.next_lastOfMonth {month : Nat} (h : month < 12) (year : Nat) :
    Date.next { year, month, day := daysInMonth year month } =
      { year, month := month + 1, day := 1 } :=
  (if_neg (Nat.lt_irrefl _)).trans (if_pos h)

theorem Date.next_lastOfYear (year : Nat) :
    Date.next { year, month := 12, day := daysInMonth year 12 } =
      { year := year + 1, month := 1, day := 1 } :=
  (if_neg (Nat.lt_irrefl _)).trans (if_neg (Nat.lt_irrefl _))

/-! ## The number of the next day -/

theorem daysBeforeMonth_succ {month : Nat} (h : 1 ≤ month) (year : Nat) :
    daysBeforeMonth year (month + 1) = daysBeforeMonth year month + daysInMonth year month := by
  obtain ⟨m, rfl⟩ := Nat.exists_eq_add_of_le' h
  unfold daysBeforeMonth
  rw [Nat.add_sub_cancel, Nat.add_sub_cancel, List.range_succ, List.foldl_append]
  rfl

/-- The days of a year. -/
theorem daysBeforeMonth_december (year : Nat) :
    daysBeforeMonth year 12 + daysInMonth year 12 = if isLeap year then 366 else 365 := by
  cases h : isLeap year <;> simp [daysBeforeMonth, daysInMonth, List.range_succ, h]

theorem daysBeforeYear_succ {year : Nat} (h : 1 ≤ year) :
    daysBeforeYear (year + 1) = daysBeforeYear year + if isLeap year then 366 else 365 := by
  obtain ⟨y, rfl⟩ := Nat.exists_eq_add_of_le' h
  have hcenturies : (y + 1) / 100 ≤ (y + 1) / 4 := Nat.div_le_div_left (by decide) (by decide)
  have hbefore : y / 100 ≤ y / 4 := Nat.div_le_div_left (by decide) (by decide)
  have hfour := Nat.succ_div (a := y) (b := 4)
  have hhundred := Nat.succ_div (a := y) (b := 100)
  have hfourHundred := Nat.succ_div (a := y) (b := 400)
  unfold daysBeforeYear isLeap
  simp only [Nat.add_sub_cancel, Bool.and_eq_true, Bool.or_eq_true, beq_iff_eq, bne_iff_ne,
    ← Nat.dvd_iff_mod_eq_zero] at *
  -- each quotient goes on by one exactly in the years that its divisor divides
  split at hfour <;> split at hhundred <;> split at hfourHundred <;> split <;> omega

theorem Date.ordinal_next {d : Date} (h : d.IsDay) : d.next.ordinal = d.ordinal + 1 := by
  obtain ⟨year, month, day⟩ := d
  obtain ⟨hyear, hmonth, hday⟩ := h
  dsimp only at hyear hmonth hday
  by_cases hwithin : day < daysInMonth year month
  · rw [next_within hwithin]
    rfl
  obtain rfl : day = daysInMonth year month := by omega
  by_cases hmonths : month < 12
  · rw [next_lastOfMonth hmonths]
    unfold ordinal
    dsimp only
    rw [daysBeforeMonth_succ hmonth.1]
    omega
  · obtain rfl : month = 12 := by omega
    have hdays := daysBeforeMonth_december year
    have hfirst : daysBeforeMonth (year + 1) 1 = 0 := rfl
    rw [next_lastOfYear]
    unfold ordinal
    dsimp only
    rw [daysBeforeYear_succ hyear, hfirst, ← hdays]
    omega

theorem Date.weekday_next {d : Date} (h : d.IsDay) : d.next.weekday = (d.weekday + 1) % 7 := by
  unfold weekday
  rw [ordinal_next h]
  omega

theorem Date.IsDay.next {d : Date} (h : d.IsDay) : d.next.IsDay := by
  have hday := h.day
  have hmonth := h.month
  unfold Date.next
  split
  · exact ⟨h.year, hmonth, by dsimp only; omega⟩
  · split
    · exact ⟨h.year, by dsimp only; omega, Nat.le_refl 1, one_le_daysInMonth _ _⟩
    · exact ⟨by dsimp only; omega, by dsimp only; omega, Nat.le_refl 1, one_le_daysInMonth _ _⟩

/-! ## The day of the week -/

theorem IsWeekday.eq_weekday {d : Date} {weekday : Nat} (h : IsWeekday d weekday) :
    d.IsDay ∧ weekday = d.weekday := by
  induction h with
  | first => exact ⟨⟨by decide, by decide, by decide⟩, rfl⟩
  | next _ ih =>
    obtain ⟨hday, rfl⟩ := ih
    exact ⟨hday.next, (Date.weekday_next hday).symm⟩

/-- Whether the days of the week come to a date. -/
def Date.HasWeekday (d : Date) : Prop :=
  ∃ weekday, IsWeekday d weekday

theorem Date.HasWeekday.next {d : Date} (h : d.HasWeekday) : d.next.HasWeekday := by
  obtain ⟨_, h⟩ := h
  exact ⟨_, h.next⟩

section

variable {year month day : Nat}

theorem hasWeekday_day (h : Date.HasWeekday { year, month, day := 1 }) (hone : 1 ≤ day)
    (hday : day ≤ daysInMonth year month) : Date.HasWeekday { year, month, day } := by
  induction day, hone using Nat.le_induction with
  | base => exact h
  | succ day _ ih =>
    have hnext := (ih (by omega)).next
    rwa [Date.next_within hday] at hnext

theorem hasWeekday_month (h : Date.HasWeekday { year, month := 1, day := 1 }) (hone : 1 ≤ month)
    (hmonth : month ≤ 12) : Date.HasWeekday { year, month, day := 1 } := by
  induction month, hone using Nat.le_induction with
  | base => exact h
  | succ month _ ih =>
    have hnext :=
      (hasWeekday_day (ih (by omega)) (one_le_daysInMonth year month) (Nat.le_refl _)).next
    rwa [Date.next_lastOfMonth hmonth] at hnext

theorem hasWeekday_year (hone : 1 ≤ year) : Date.HasWeekday { year, month := 1, day := 1 } := by
  induction year, hone using Nat.le_induction with
  | base => exact ⟨0, .first⟩
  | succ year _ ih =>
    have hdecember : Date.HasWeekday { year, month := 12, day := 1 } :=
      hasWeekday_month ih (by decide) (Nat.le_refl 12)
    have hnext := (hasWeekday_day hdecember (one_le_daysInMonth year 12) (Nat.le_refl _)).next
    rwa [Date.next_lastOfYear] at hnext

end

/-- **The day of the week.** The weekday computed from the number of a day is the one that the days of
the week come to, and no other. -/
theorem isWeekday_iff {d : Date} (h : d.IsDay) {weekday : Nat} :
    IsWeekday d weekday ↔ weekday = d.weekday := by
  constructor
  · exact fun hweekday => hweekday.eq_weekday.2
  · rintro rfl
    obtain ⟨w, hw⟩ := hasWeekday_day (hasWeekday_month (hasWeekday_year h.year) h.month.1 h.month.2)
      h.day.1 h.day.2
    exact hw.eq_weekday.2 ▸ hw

/-- The fourteenth of February 2017 was a Tuesday. -/
example : IsWeekday { year := 2017, month := 2, day := 14 } 1 :=
  (isWeekday_iff ⟨by decide, by decide, by decide⟩).mpr (by decide)

/-- A day of the calendar is the date with its fields. -/
theorem Date.of?_eq_ok {d : Date} (h : d.IsDay) (hyear : d.year ≤ 9999) :
    Date.of? d.year d.month d.day = .ok d := by
  have hone := h.year
  have hmonth := h.month
  have hday := h.day
  unfold Date.of?
  simp only [Int.toNat_natCast]
  rw [if_neg (by simp; omega), if_neg (by simp; omega), if_neg (by simp; omega)]

end Placard.Time
