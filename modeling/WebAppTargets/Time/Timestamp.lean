import WebAppTargets.Time.Instant
import WebAppTargets.Text.Blank

namespace WebAppTargets.Timestamp

inductive Fault where
  | tooShort
  | invalid
  | outOfRange
  | tooLong
  | impossible
  deriving DecidableEq

def Fault.message : Fault → String
  | .tooShort => "premature end of input"
  | .invalid => "input contains invalid characters"
  | .outOfRange => "input is out of range"
  | .tooLong => "trailing input"
  | .impossible => "no possible date and time matching input"

/-- A reading step: what it reads and the text after it. -/
abbrev Step (α : Type) := List Char → Except Fault (α × List Char)

def value (ds : List Char) : Nat := ds.foldl (fun n c => n * 10 + (c.toNat - 48)) 0

def number (least most : Nat) : Step Nat := fun s =>
  let ds := (s.take most).takeWhile Char.isDigit
  if ds.length < least then
    .error (if s.length < least then .tooShort else .invalid)
  else .ok (value ds, s.drop ds.length)

def mark (c : Char) : Step Unit
  | [] => .error .tooShort
  | d :: r => if d = c then .ok ((), r) else .error .invalid

def within (lo hi : Nat) (step : Step Nat) : Step Nat := fun s => do
  let (n, r) ← step s
  if lo ≤ n && n ≤ hi then return (n, r) else throw .outOfRange

/-- A year of up to four digits, or of any number of them after a sign. -/
def year : Step Int := fun s => do
  let (y, r) ← match Text.trimStart s with
    | '-' :: r => do
        let (n, r) ← number 1 r.length.succ r
        pure (-(n : Int), r)
    | '+' :: r => do
        let (n, r) ← number 1 r.length.succ r
        pure ((n : Int), r)
    | s => do
        let (n, r) ← number 1 4 s
        pure ((n : Int), r)
  if -0x80000000 ≤ y && y < 0x80000000 then return (y, r) else throw .outOfRange

/-- Digits after a point; those after the ninth do not count. -/
def fraction : Step Nat
  | '.' :: s => do
      let (_, r) ← number 1 9 s
      let ds := s.take (s.length - r.length)
      return (value ds * Nat.pow 10 (9 - ds.length), r.dropWhile Char.isDigit)
  | s => .ok (0, s)

structure Reading where
  date : Date
  hour : Nat
  minute : Nat
  second : Nat
  nanos : Nat

def Reading.instant (x : Reading) (offset : Int) : Except Fault Instant := do
  if !x.date.isValid then throw .outOfRange
  if offset ≤ -86400 || 86400 ≤ offset then throw .outOfRange
  let leap := x.second / 60
  let seconds := x.date.toDays * 86400 + (x.hour * 3600 + x.minute * 60 + (x.second - leap) : Nat) - offset
  let year := (Date.ofDays (seconds / 86400)).year
  if year < Date.firstYear || Date.lastYear < year then throw .impossible
  return ⟨seconds, x.nanos + leap * 1000000000⟩

/-- Space is skipped in front of numbers always, and in front of marks if `spaced`. -/
def looseMark (spaced : Bool) (c : Char) : Step Unit := fun s =>
  mark c (if spaced then Text.trimStart s else s)

def looseNumber (lo hi : Nat) : Step Nat := fun s =>
  within lo hi (number 1 2) (Text.trimStart s)

def looseDate (spaced : Bool) : Step Date := fun s => do
  let (y, s) ← year s
  let (_, s) ← looseMark spaced '-' s
  let (m, s) ← looseNumber 1 12 s
  let (_, s) ← looseMark spaced '-' s
  let (d, s) ← looseNumber 1 31 s
  return (⟨y, m, d⟩, s)

def looseTime (spaced : Bool) (date : Date) : Step Reading := fun s => do
  let (h, s) ← looseNumber 0 23 s
  let (_, s) ← looseMark spaced ':' s
  let (m, s) ← looseNumber 0 59 s
  let (_, s) ← looseMark spaced ':' s
  let (sec, s) ← looseNumber 0 60 s
  let (nanos, s) ← fraction s
  return (⟨date, h, m, sec, nanos⟩, s)

def pair (s : List Char) : Except Fault (Nat × Nat × List Char) :=
  match s with
  | a :: b :: r =>
      if a.isDigit && b.isDigit then .ok (a.toNat - 48, b.toNat - 48, r) else .error .invalid
  | [a] => .error (if a.utf8Size < 2 then .tooShort else .invalid)
  | [] => .error .tooShort

/-- An offset in seconds: `Z`, or a sign, hours, what `separator` takes off, and minutes. A minus
sign proper does as well as a hyphen. -/
def offset (separator : Step Unit) : Step Int := fun s => do
  let (sign, s) ← match s with
    | [] => throw .tooShort
    | c :: r =>
        if c = 'Z' || c = 'z' then return (0, r)
        else if c = '+' then pure (1, r)
        else if c = '-' || c.toNat = 0x2212 then pure (-1, r)
        else throw .invalid
  let (a, b, s) ← pair s
  let (_, s) ← separator s
  let (c, d, s) ← pair s
  if 5 < c then throw .outOfRange
  return (sign * ((a * 10 + b) * 3600 + (c * 10 + d) * 60 : Nat), s)

def isSeparator (c : Char) : Bool := c == 'T' || c == 't' || c == ' '

def dateTimeMark : Step Unit
  | [] => .error .tooShort
  | c :: r => if isSeparator c then .ok ((), r) else .error .invalid

/-- The internet form with space between the parts, signs and missing zeros allowed. -/
def lenient (s : List Char) : Except Fault Instant := do
  let (date, s) ← looseDate true s
  let (_, s) ← dateTimeMark s
  let (x, s) ← looseTime true date s
  let s := Text.trimStart s
  let (off, s) ←
    if (s.take 3).map Char.toUpper = ['U', 'T', 'C'] then pure (0, s.drop 3)
    else offset (fun s => .ok ((), s.dropWhile fun c => c = ':' || Text.isBlank c)) s
  if !(Text.trimStart s).isEmpty then throw .tooLong
  x.instant off

def strict (s : List Char) : Except Fault Instant := do
  let (y, s) ← number 4 4 s
  let (_, s) ← mark '-' s
  let (m, s) ← within 1 12 (number 2 2) s
  let (_, s) ← mark '-' s
  let (d, s) ← within 1 31 (number 2 2) s
  let (_, s) ← dateTimeMark s
  let (h, s) ← within 0 23 (number 2 2) s
  let (_, s) ← mark ':' s
  let (mi, s) ← within 0 59 (number 2 2) s
  let (_, s) ← mark ':' s
  let (sec, s) ← within 0 60 (number 2 2) s
  let (nanos, s) ← fraction s
  let (off, s) ← offset (mark ':') s
  if !s.isEmpty then throw .tooLong
  Reading.instant ⟨⟨y, m, d⟩, h, mi, sec, nanos⟩ off

def strict? (s : List Char) : Option Instant := (strict s).toOption

/-- No offset: the time is UTC. -/
def local? (s : List Char) : Option Instant :=
  let read : Except Fault Instant := do
    let (date, s) ← looseDate false s
    let (_, s) ← mark 'T' s
    let (x, s) ← looseTime false date s
    if !s.isEmpty then throw .tooLong
    x.instant 0
  read.toOption

end WebAppTargets.Timestamp
