import WebAppTargets.Proofs.Calendar

namespace WebAppTargets

namespace Date

def next (d : Date) : Date :=
  if d.day < daysInMonth d.year d.month then ⟨d.year, d.month, d.day + 1⟩
  else if d.month < 12 then ⟨d.year, d.month + 1, 1⟩
  else ⟨d.year + 1, 1, 1⟩

def previous (d : Date) : Date :=
  if 1 < d.day then ⟨d.year, d.month, d.day - 1⟩
  else if 1 < d.month then ⟨d.year, d.month - 1, daysInMonth d.year (d.month - 1)⟩
  else ⟨d.year - 1, 12, 31⟩

/-- The year that starts in March, by the number of the year it starts in. -/
def marchYear (d : Date) : Int := if d.month ≤ 2 then d.year - 1 else d.year

def marchMonth (m : Nat) : Nat := if m ≤ 2 then m + 9 else m - 3

/-- Days before a March year, from the start of March year 0. -/
def yearStart (y : Int) : Int := 365 * y + y / 4 - y / 100 + y / 400

variable {d e : Date}

theorem toDays_eq (d : Date) :
    d.toDays = yearStart d.marchYear + (daysBefore (marchMonth d.month) + d.day : Nat) - 719469 := by
  have hera (y : Int) : y / 400 * 146097 + (daysBeforeYear (y % 400).toNat : Nat) = yearStart y := by
    unfold daysBeforeYear yearStart
    omega
  change d.marchYear / 400 * 146097 + (daysBeforeYear (d.marchYear % 400).toNat +
    daysBefore (marchMonth d.month) + d.day : Nat) - 719469 = _
  rw [← hera]
  omega

theorem yearStart_lt {y z : Int} (h : y < z) : yearStart (y + 1) ≤ yearStart z := by
  unfold yearStart
  omega

theorem yearStart_succ (y : Int) :
    yearStart (y + 1) = yearStart y + (daysBefore 11 + daysInMonth (y + 1) 2 : Nat) := by
  have hfebruary : daysInMonth (y + 1) 2 = if isLeapYear (y + 1) then 29 else 28 := rfl
  have hbefore : daysBefore 11 = 337 := rfl
  rw [hfebruary, hbefore]
  unfold yearStart
  by_cases h : isLeapYear (y + 1)
  · rw [if_pos h]
    rw [isLeapYear_iff] at h
    omega
  · rw [if_neg h]
    rw [isLeapYear_iff] at h
    omega

theorem daysBefore_succ {m : Nat} (y : Int) (hlow : 1 ≤ m) (hhigh : m ≤ 12) (hm : m ≠ 2) :
    daysBefore (marchMonth m + 1) = daysBefore (marchMonth m) + daysInMonth y m := by
  interval_cases m
  · rfl
  · cases hm rfl
  all_goals rfl

theorem marchMonth_le {m : Nat} (hhigh : m ≤ 12) : marchMonth m ≤ 11 := by
  rw [marchMonth]
  split <;> omega

theorem marchMonth_injective {m n : Nat} (hm : 1 ≤ m) (hn : 1 ≤ n) (hm' : m ≤ 12) (hn' : n ≤ 12)
    (h : marchMonth m = marchMonth n) : m = n := by
  unfold marchMonth at h
  split at h <;> split at h <;> omega

theorem daysInMonth_pos {m : Nat} (y : Int) : 0 < daysInMonth y m := by
  rw [daysInMonth]
  split
  · split <;> decide
  · split <;> decide

theorem daysBefore_add_day_le (h : d.Exists) (hm : d.month ≠ 2) :
    daysBefore (marchMonth d.month) + d.day ≤ daysBefore (marchMonth d.month + 1) := by
  obtain ⟨hlow, hhigh, -, hday⟩ := h
  rw [daysBefore_succ d.year hlow hhigh hm]
  exact Nat.add_le_add_left hday _

theorem toDays_bounds (h : d.Exists) :
    yearStart d.marchYear < d.toDays + 719469 ∧ d.toDays + 719469 ≤ yearStart (d.marchYear + 1) := by
  have hsucc := yearStart_succ d.marchYear
  have hdays := toDays_eq d
  have hfirst : 1 ≤ d.day := h.2.2.1
  refine ⟨by omega, ?_⟩
  by_cases hm : d.month = 2
  · -- February ends the March year, and has the length of the year that it is in
    have hday := h.2.2.2
    have hyear : d.marchYear + 1 = d.year := by simp [marchYear, hm]
    rw [hm] at hday hdays
    rw [hyear] at hsucc ⊢
    change d.toDays = yearStart d.marchYear + (daysBefore 11 + d.day : Nat) - 719469 at hdays
    omega
  · have hmonth := daysBefore_add_day_le h hm
    have hlast : daysBefore (marchMonth d.month + 1) ≤ daysBefore 11 := by
      have hne : marchMonth d.month ≠ 11 :=
        fun h' => hm (marchMonth_injective h.1 (Nat.le_succ 1) h.2.1 (by decide) h')
      have hle := marchMonth_le h.2.1
      unfold daysBefore
      omega
    omega

theorem marchYear_le_of_toDays_le (hd : d.Exists) (he : e.Exists) (h : d.toDays ≤ e.toDays) :
    d.marchYear ≤ e.marchYear := by
  by_contra hlt
  have hle := yearStart_lt (Int.lt_of_not_ge hlt)
  have hd' := toDays_bounds hd
  have he' := toDays_bounds he
  omega

theorem marchMonth_le_of_inYear_le (hd : d.Exists) (he : e.Exists)
    (h : daysBefore (marchMonth d.month) + d.day ≤ daysBefore (marchMonth e.month) + e.day) :
    marchMonth d.month ≤ marchMonth e.month := by
  by_contra hlt
  have hm : e.month ≠ 2 := by
    intro hm
    rw [hm] at hlt
    exact hlt (marchMonth_le hd.2.1)
  have hend := daysBefore_add_day_le he hm
  have hfirst := hd.2.2.1
  have hle : daysBefore (marchMonth e.month + 1) ≤ daysBefore (marchMonth d.month) := by
    unfold daysBefore
    omega
  omega

theorem toDays_injective (hd : d.Exists) (he : e.Exists) (h : d.toDays = e.toDays) : d = e := by
  have hmarch : d.marchYear = e.marchYear :=
    Int.le_antisymm (marchYear_le_of_toDays_le hd he h.le) (marchYear_le_of_toDays_le he hd h.ge)
  rw [toDays_eq, toDays_eq, hmarch] at h
  have hinYear : daysBefore (marchMonth d.month) + d.day = daysBefore (marchMonth e.month) + e.day := by
    omega
  have hmonth : d.month = e.month := marchMonth_injective hd.1 he.1 hd.2.1 he.2.1
    (Nat.le_antisymm (marchMonth_le_of_inYear_le hd he hinYear.le)
      (marchMonth_le_of_inYear_le he hd hinYear.ge))
  have hday : d.day = e.day := by
    rw [hmonth] at hinYear
    exact Nat.add_left_cancel hinYear
  have hyear : d.year = e.year := by
    unfold marchYear at hmarch
    rw [hmonth] at hmarch
    split at hmarch <;> omega
  cases d
  cases e
  rw [Date.mk.injEq]
  exact ⟨hyear, hmonth, hday⟩

theorem ofDays_toDays (h : d.Exists) : ofDays d.toDays = d :=
  toDays_injective (exists_ofDays _) h (toDays_ofDays _)

theorem next_year (d : Date) : d.year ≤ d.next.year ∧ d.next.year ≤ d.year + 1 := by
  rw [next]
  split
  · exact ⟨le_rfl, by dsimp only; omega⟩
  · split
    · exact ⟨le_rfl, by dsimp only; omega⟩
    · exact ⟨by dsimp only; omega, le_rfl⟩

theorem previous_year (d : Date) : d.year - 1 ≤ d.previous.year ∧ d.previous.year ≤ d.year := by
  rw [previous]
  split
  · exact ⟨by dsimp only; omega, le_rfl⟩
  · split
    · exact ⟨by dsimp only; omega, le_rfl⟩
    · exact ⟨le_rfl, by dsimp only; omega⟩

theorem exists_next (h : d.Exists) : d.next.Exists := by
  obtain ⟨hlow, hhigh, -, -⟩ := h
  rw [next]
  split
  · rename_i hday
    exact ⟨hlow, hhigh, Nat.le_add_left _ _, hday⟩
  · split
    · rename_i hmonth
      exact ⟨Nat.le_add_left _ _, hmonth, le_rfl, daysInMonth_pos _⟩
    · exact ⟨le_rfl, Nat.le_add_left 1 11, le_rfl, daysInMonth_pos _⟩

theorem toDays_first (h : d.Exists) (hm : d.month ≠ 2) (hlast : d.day = daysInMonth d.year d.month)
    (hyear : e.marchYear = d.marchYear) (hmonth : marchMonth e.month = marchMonth d.month + 1)
    (hfirst : e.day = 1) : e.toDays = d.toDays + 1 := by
  have hsucc := daysBefore_succ d.year h.1 h.2.1 hm
  rw [toDays_eq, toDays_eq, hyear, hmonth, hsucc, hfirst, hlast]
  omega

theorem toDays_march (y : Int) : toDays ⟨y, 3, 1⟩ = toDays ⟨y, 2, daysInMonth y 2⟩ + 1 := by
  have hsucc := yearStart_succ (y - 1)
  rw [Int.sub_add_cancel] at hsucc
  have hstart : daysBefore 0 = 0 := rfl
  rw [toDays_eq, toDays_eq]
  change yearStart y + (daysBefore 0 + 1 : Nat) - 719469 =
    yearStart (y - 1) + (daysBefore 11 + daysInMonth y 2 : Nat) - 719469 + 1
  omega

theorem toDays_next (h : d.Exists) : d.next.toDays = d.toDays + 1 := by
  have hexists := h
  obtain ⟨hlow, hhigh, -, hlast⟩ := h
  rw [next]
  split
  · rw [toDays_eq, toDays_eq]
    simp only [marchYear]
    omega
  · have hend : d.day = daysInMonth d.year d.month := by omega
    by_cases hm : d.month = 2
    · have hmarch := toDays_march d.year
      rwa [if_pos (by omega), hm, show d = ⟨d.year, 2, daysInMonth d.year 2⟩ by rw [← hm, ← hend]]
    · split
      · apply toDays_first hexists hm hend
        · unfold marchYear
          dsimp only
          split <;> split <;> omega
        · unfold marchMonth
          dsimp only
          split <;> split <;> omega
        · rfl
      · have hdecember : d.month = 12 := by omega
        apply toDays_first hexists hm hend
        · simp [marchYear, hdecember]
        · rw [hdecember]
          rfl
        · rfl

theorem exists_previous (h : d.Exists) : d.previous.Exists := by
  obtain ⟨hlow, hhigh, hfirst, hlast⟩ := h
  rw [previous]
  split
  · rename_i hday
    exact ⟨hlow, hhigh, Nat.le_sub_one_of_lt hday, (Nat.sub_le _ _).trans hlast⟩
  · split
    · rename_i hmonth
      exact ⟨Nat.le_sub_one_of_lt hmonth, (Nat.sub_le _ _).trans hhigh, daysInMonth_pos _, le_rfl⟩
    · exact ⟨Nat.le_add_left 1 11, le_rfl, Nat.le_add_left 1 30, le_rfl⟩

theorem next_previous (h : d.Exists) : d.previous.next = d := by
  obtain ⟨y, m, n⟩ := d
  obtain ⟨hlow, hhigh, hfirst, hlast⟩ := h
  dsimp only at hlow hhigh hfirst hlast
  unfold previous
  dsimp only
  split
  · rename_i hday
    have hback : n - 1 + 1 = n := Nat.sub_add_cancel hfirst
    rw [next, if_pos (by dsimp only; omega), hback]
  · obtain rfl : n = 1 := by omega
    split
    · have hback : m - 1 + 1 = m := Nat.sub_add_cancel hlow
      rw [next, if_neg (Nat.lt_irrefl _), if_pos (by dsimp only; omega), hback]
    · obtain rfl : m = 1 := by omega
      simp [next, daysInMonth]

theorem toDays_previous (h : d.Exists) : d.previous.toDays = d.toDays - 1 := by
  have hnext := toDays_next (exists_previous h)
  rw [next_previous h] at hnext
  omega

theorem ofDays_succ (n : Int) : ofDays (n + 1) = (ofDays n).next := by
  have h := exists_ofDays n
  have hnext := toDays_next h
  rw [toDays_ofDays] at hnext
  rw [← hnext, ofDays_toDays (exists_next h)]

/-- The day from which days are counted, and a leap day. -/
example : ofDays 0 = ⟨1970, 1, 1⟩ ∧ ofDays 19782 = ⟨2024, 2, 29⟩ := by decide

theorem ofDays_pred (n : Int) : ofDays (n - 1) = (ofDays n).previous := by
  have h := exists_ofDays n
  have hprevious := toDays_previous h
  rw [toDays_ofDays] at hprevious
  rw [← hprevious, ofDays_toDays (exists_previous h)]

end Date

end WebAppTargets
