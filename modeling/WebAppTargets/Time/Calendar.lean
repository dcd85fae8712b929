namespace WebAppTargets

structure Date where
  year : Int
  month : Nat
  day : Nat
  deriving DecidableEq

namespace Date

def isLeapYear (y : Int) : Bool := y % 4 == 0 && (y % 100 != 0 || y % 400 == 0)

def daysInMonth (y : Int) (m : Nat) : Nat :=
  if m = 2 then (if isLeapYear y then 29 else 28)
  else if m = 4 || m = 6 || m = 9 || m = 11 then 30
  else 31

def firstYear : Int := -262143

def lastYear : Int := 262142

def isValid (d : Date) : Bool :=
  firstYear ≤ d.year && d.year ≤ lastYear && 1 ≤ d.month && d.month ≤ 12 && 1 ≤ d.day &&
    d.day ≤ daysInMonth d.year d.month

/-- Days of a March year before its month `m`, March being 0. -/
def daysBefore (m : Nat) : Nat := (153 * m + 2) / 5

/-- Days of an era before its year `y`. -/
def daysBeforeYear (y : Nat) : Nat := 365 * y + y / 4 - y / 100

/-- Days from 1 January 1970. Years are counted from 1 March, so that a leap day is the last of its
year, and in eras of 400 years, which all have the same number of days. -/
def toDays (d : Date) : Int :=
  let y := if d.month ≤ 2 then d.year - 1 else d.year
  let m := if d.month ≤ 2 then d.month + 9 else d.month - 3
  y / 400 * 146097 + (daysBeforeYear (y % 400).toNat + daysBefore m + d.day : Nat) - 719469

def ofDays (n : Int) : Date :=
  let z := n + 719468
  let inEra := (z % 146097).toNat
  let y := (inEra - inEra / 1460 + inEra / 36524 - inEra / 146096) / 365
  let inYear := inEra - daysBeforeYear y
  let m := (5 * inYear + 2) / 153
  let year := z / 146097 * 400 + y
  ⟨if m < 10 then year else year + 1, if m < 10 then m + 3 else m - 9, inYear - daysBefore m + 1⟩

end Date

end WebAppTargets
