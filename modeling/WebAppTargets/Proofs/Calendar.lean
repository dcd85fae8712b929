import Mathlib.Order.Monotone.Basic
import Mathlib.Tactic.IntervalCases
import WebAppTargets.Time.Calendar

namespace WebAppTargets

namespace Date

/-- Days of an era without the leap days before them, so that all its years are of 365 days. -/
def evened (e : Nat) : Nat := e - e / 1460 + e / 36524 - e / 146096

theorem monotone_evened : Monotone evened := by
  apply monotone_nat_of_le_succ
  intro e
  unfold evened
  omega

theorem evened_of_year : ∀ y < 400,
    evened (daysBeforeYear y) / 365 = y ∧ evened (daysBeforeYear (y + 1) - 1) / 365 = y := by
  decide +kernel

theorem daysBeforeYear_succ (y : Nat) :
    daysBeforeYear (y + 1) ≤ daysBeforeYear y + 366 ∧
      (daysBeforeYear (y + 1) = daysBeforeYear y + 366 → (y + 1) % 4 = 0 ∧ (y + 1) % 100 ≠ 0) := by
  have hquarter : (y + 1) / 4 = y / 4 + if 4 ∣ y + 1 then 1 else 0 := Nat.succ_div
  have hcentury : (y + 1) / 100 = y / 100 + if 100 ∣ y + 1 then 1 else 0 := Nat.succ_div
  unfold daysBeforeYear
  split at hquarter <;> split at hcentury <;> omega

/-- The year of an era that a day is in, and the days of that year before it. The last of 366 days is a
leap day, at the end of February of the next year. -/
theorem year_of_day {e y : Nat} (he : e < 146097) (hy : y = evened e / 365) :
    y < 400 ∧ daysBeforeYear y ≤ e ∧ e - daysBeforeYear y ≤ 365 ∧
      (e - daysBeforeYear y = 365 → (y + 1) % 4 = 0 ∧ ((y + 1) % 100 ≠ 0 ∨ (y + 1) % 400 = 0)) := by
  have hmono {a b : Nat} (h : a ≤ b) : evened a / 365 ≤ evened b / 365 :=
    Nat.div_le_div_right (monotone_evened h)
  have hlast : evened 146096 / 365 = 399 := rfl
  have hyear : y < 400 := by
    have hle := hmono (Nat.le_of_lt_succ he)
    omega
  have hstart : daysBeforeYear y ≤ e := by
    by_contra hlt
    -- a day before this year is not later than the last day of the year before
    obtain ⟨x, rfl⟩ : ∃ x, y = x + 1 := ⟨y - 1, by cases y <;> simp [daysBeforeYear] at hlt ⊢⟩
    have hle := hmono (Nat.le_pred_of_lt (Nat.lt_of_not_le hlt))
    rw [← hy, Nat.pred_eq_sub_one, (evened_of_year x (by omega)).2] at hle
    omega
  have hend : y < 399 → e < daysBeforeYear (y + 1) := by
    intro hy'
    by_contra hle
    have hnext := hmono (Nat.le_of_not_lt hle)
    rw [← hy, (evened_of_year (y + 1) (by omega)).1] at hnext
    omega
  obtain ⟨hlength, hleap⟩ := daysBeforeYear_succ y
  refine ⟨hyear, hstart, ?_, ?_⟩
  · by_cases hy' : y < 399
    · have hlt := hend hy'
      omega
    · obtain rfl : y = 399 := by omega
      have hlast : daysBeforeYear 399 = 145731 := rfl
      omega
  · intro hday
    by_cases hy' : y < 399
    · have hlt := hend hy'
      have h := hleap (by omega)
      exact ⟨h.1, .inl h.2⟩
    · obtain rfl : y = 399 := by omega
      exact ⟨rfl, .inr rfl⟩

theorem month_of_day {d m : Nat} (hd : d ≤ 365) (hm : m = (5 * d + 2) / 153) :
    m ≤ 11 ∧ daysBefore m ≤ d ∧ d < daysBefore (m + 1) := by
  unfold daysBefore
  omega

theorem isLeapYear_iff {y : Int} : isLeapYear y ↔ y % 4 = 0 ∧ (y % 100 ≠ 0 ∨ y % 400 = 0) := by
  simp [isLeapYear]

/-- The day is day `d` of month `m` of year `y` of the era, all counted from 0 and months from March. -/
structure Splits (n era : Int) (y m d : Nat) : Prop where
  day : n + 719468 = era * 146097 + (daysBeforeYear y + daysBefore m + d : Nat)
  year : y < 400
  month : m ≤ 11
  inMonth : daysBefore m + d < daysBefore (m + 1)
  inYear : daysBefore m + d ≤ 365
  leap : daysBefore m + d = 365 → (y + 1) % 4 = 0 ∧ ((y + 1) % 100 ≠ 0 ∨ (y + 1) % 400 = 0)
  date : ofDays n =
    ⟨if m < 10 then era * 400 + y else era * 400 + y + 1, if m < 10 then m + 3 else m - 9, d + 1⟩

theorem exists_splits (n : Int) : ∃ era y m d, Splits n era y m d := by
  obtain ⟨e, he⟩ : ∃ e : Nat, (n + 719468) % 146097 = e := Int.eq_ofNat_of_zero_le (by omega)
  obtain ⟨y, hy⟩ : ∃ y, y = evened e / 365 := ⟨_, rfl⟩
  obtain ⟨hyear, hstart, hinYear, hleap⟩ := year_of_day (by omega) hy
  obtain ⟨x, hx⟩ := Nat.exists_eq_add_of_le hstart
  rw [hx, Nat.add_sub_cancel_left] at hinYear hleap
  obtain ⟨m, hm⟩ : ∃ m, m = (5 * x + 2) / 153 := ⟨_, rfl⟩
  obtain ⟨hmonth, hbefore, hafter⟩ := month_of_day hinYear hm
  obtain ⟨d, hd⟩ := Nat.exists_eq_add_of_le hbefore
  have hdate : ofDays n = ⟨if m < 10 then (n + 719468) / 146097 * 400 + y
      else (n + 719468) / 146097 * 400 + y + 1, if m < 10 then m + 3 else m - 9, d + 1⟩ := by
    rw [evened] at hy
    simp only [ofDays, he, Int.toNat_natCast, ← hy]
    rw [hx, Nat.add_sub_cancel_left, ← hm, hd, Nat.add_sub_cancel_left]
  refine ⟨(n + 719468) / 146097, y, m, d, ?_, hyear, hmonth, hd ▸ hafter, hd ▸ hinYear, hd ▸ hleap, hdate⟩
  omega

theorem toDays_ofDays (n : Int) : (ofDays n).toDays = n := by
  obtain ⟨era, y, m, d, h⟩ := exists_splits n
  have hday := h.day
  have hyear : (era * 400 + y) / 400 = era ∧ ((era * 400 + y) % 400).toNat = y := by
    have hy := h.year
    omega
  rw [h.date]
  unfold toDays
  by_cases hm : m < 10
  · have hmonth : ¬m + 3 ≤ 2 := by omega
    simp only [hm, hmonth, if_true, if_false, hyear, Nat.add_sub_cancel]
    omega
  · have hmonth : m - 9 ≤ 2 := by
      have hm' := h.month
      omega
    have hback : m - 9 + 9 = m := Nat.sub_add_cancel (Nat.le_of_not_lt fun hlt => hm (by omega))
    simp only [hm, hmonth, if_true, if_false, hyear, Int.add_sub_cancel, hback]
    omega

theorem daysInMonth_le (y : Int) (m : Nat) : daysInMonth y m ≤ 31 := by
  unfold daysInMonth
  split
  · split <;> decide
  · split <;> decide

def Exists (d : Date) : Prop :=
  1 ≤ d.month ∧ d.month ≤ 12 ∧ 1 ≤ d.day ∧ d.day ≤ daysInMonth d.year d.month

theorem isValid_iff {d : Date} : d.isValid ↔ (firstYear ≤ d.year ∧ d.year ≤ lastYear) ∧ d.Exists := by
  simp [isValid, Exists, and_assoc]

theorem exists_ofDays (n : Int) : (ofDays n).Exists := by
  obtain ⟨era, y, m, d, h⟩ := exists_splits n
  obtain ⟨-, -, hmonth, hinMonth, hinYear, hleap, hdate⟩ := h
  rw [hdate]
  unfold daysBefore at hinMonth hinYear hleap
  by_cases hm : m = 11
  · -- February, which has a day more in a leap year
    subst hm
    change Exists ⟨era * 400 + y + 1, 2, d + 1⟩
    refine ⟨Nat.le_succ 1, Nat.le_add_left 2 10, Nat.le_add_left 1 d, ?_⟩
    change d + 1 ≤ if isLeapYear (era * 400 + y + 1) then 29 else 28
    by_cases hd : d = 28
    · have hyear : isLeapYear (era * 400 + y + 1) := by
        rw [isLeapYear_iff]
        omega
      rw [if_pos hyear, hd]
    · split <;> omega
  · have hm' : m < 11 := by omega
    unfold Exists daysInMonth
    interval_cases m <;> simp <;> omega

end Date

end WebAppTargets
