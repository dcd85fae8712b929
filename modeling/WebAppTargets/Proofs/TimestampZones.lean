import WebAppTargets.Client.Shapes
import WebAppTargets.Proofs.NextDay
import WebAppTargets.Proofs.TimestampParts

namespace WebAppTargets

def Instant.utc (t : Instant) : Date × Int := (Date.ofDays (t.seconds / 86400), t.seconds % 86400)

namespace Timestamp

/-- What a clock shows: a date in a year of four digits and the time of day, with any number of digits
after the point. -/
structure Clock where
  date : Date
  hour : Nat
  minute : Nat
  second : Nat
  places : List Char
  year_nonneg : 0 ≤ date.year
  year_le : date.year ≤ 9999
  date_exists : date.Exists
  hour_le : hour ≤ 23
  minute_le : minute ≤ 59
  second_le : second ≤ 60
  digits : ∀ c ∈ places, c.isDigit

namespace Clock

variable (x : Clock)

def text (letter : Char) : List Char :=
  (Instant.padded 4 x.date.year.toNat).toList ++ '-' :: ((Instant.padded 2 x.date.month).toList ++
    '-' :: ((Instant.padded 2 x.date.day).toList ++ letter :: ((Instant.padded 2 x.hour).toList ++
    ':' :: ((Instant.padded 2 x.minute).toList ++ ':' :: ((Instant.padded 2 x.second).toList ++
    placesText x.places)))))

/-- The leap second goes on with the nanoseconds of the second before it. -/
def nanos : Nat := placesNanos x.places + if x.second = 60 then 10 ^ 9 else 0

def time : Int := x.hour * 3600 + x.minute * 60 + min x.second 59

/-- Date and second of the day in UTC when the clock is `offset` seconds ahead, less than a day. -/
def utc (offset : Int) : Date × Int :=
  if x.time - offset < 0 then (x.date.previous, x.time - offset + 86400)
  else if 86400 ≤ x.time - offset then (x.date.next, x.time - offset - 86400)
  else (x.date, x.time - offset)

def reading : Reading := ⟨x.date, x.hour, x.minute, x.second, placesNanos x.places⟩

end Clock

inductive Zone : List Char → Int → Prop
  | utc {c : Char} (hc : c = 'Z' ∨ c = 'z') : Zone [c] 0
  | signed {c : Char} {sign : Int} {hour minute : Nat} (hsign : IsSign c sign) (hhour : hour ≤ 23)
      (hminute : minute ≤ 59) :
      Zone (c :: ((Instant.padded 2 hour).toList ++ ':' :: (Instant.padded 2 minute).toList))
        (sign * (hour * 3600 + minute * 60 : Nat))

/-- A timestamp of the internet form, with this letter between date and time. -/
structure Stamp (letter : Char) (s : List Char) (x : Clock) (offset : Int) : Prop where
  separator : letter ∈ ['T', 't', ' ']
  text : ∃ zone, Zone zone offset ∧ s = x.text letter ++ zone

theorem isSeparator_iff {c : Char} : isSeparator c ↔ c ∈ ['T', 't', ' '] := by
  simp [isSeparator, or_assoc]

section Strict

variable {s r : List Char}

theorem zone_iff {off : Int} :
    Zone s off ↔ offset (mark ':') s = .ok (off, []) ∧ -86400 < off ∧ off < 86400 := by
  constructor
  · intro h
    cases h with
    | utc hc =>
        refine ⟨offset_eq_ok_iff.2 (.inl ⟨rfl, ?_⟩), by decide, by decide⟩
        rcases hc with rfl | rfl
        · exact .inl rfl
        · exact .inr rfl
    | @signed c sign hour minute hsign hhour hminute =>
        refine ⟨offset_eq_ok_iff.2 (.inr ⟨c, sign, _, hsign, rfl, ?_⟩), ?_⟩
        · exact ahead_eq_ok_iff.2 ⟨hour, by omega, minute, hminute, by rw [List.append_nil], rfl⟩
        · cases hsign <;> omega
  · rintro ⟨h, hlow, hhigh⟩
    rcases offset_eq_ok_iff.1 h with ⟨hoff, hs⟩ | ⟨c, sign, t, hsign, hs, h⟩
    · rw [hoff]
      rcases hs with hs | hs
      · exact hs ▸ .utc (.inl rfl)
      · exact hs ▸ .utc (.inr rfl)
    · obtain ⟨hour, -, minute, hminute, ht, hoff⟩ := ahead_eq_ok_iff.1 h
      have hhour : hour ≤ 23 := by cases hsign <;> omega
      rw [hs, ht, hoff, List.append_nil]
      exact .signed hsign hhour hminute

theorem Zone.noDigit {off : Int} (h : Zone s off) : NoDigit s := by
  cases h with
  | utc hc =>
      apply noDigit_cons
      rcases hc with rfl | rfl <;> decide
  | signed hsign =>
      apply noDigit_cons
      cases hsign <;> decide

theorem Zone.no_point {off : Int} (h : Zone s off) : '.' ∉ s.head? := by
  cases h with
  | utc hc => rcases hc with rfl | rfl <;> simp
  | signed hsign => cases hsign <;> simp

theorem Clock.day_le (x : Clock) : x.date.day ≤ 31 :=
  x.date_exists.2.2.2.trans (Date.daysInMonth_le _ _)

theorem strict_text {letter : Char} (hletter : letter ∈ ['T', 't', ' ']) (x : Clock) (hr : NoDigit r)
    (hpoint : '.' ∉ r.head?) {i : Instant} :
    strict (x.text letter ++ r) = .ok i ↔
      ∃ off, offset (mark ':') r = .ok (off, []) ∧ x.reading.instant off = .ok i := by
  have hyear (s : List Char) :
      number 4 4 ((Instant.padded 4 x.date.year.toNat).toList ++ s) = .ok (x.date.year.toNat, s) := by
    have hle := x.year_le
    exact (number_eq_ok_iff (by decide)).2 ⟨by omega, rfl⟩
  have htwo {lo hi n : Nat} (hhi : hi < 100) (hlow : lo ≤ n) (hhigh : n ≤ hi) (s : List Char) :
      within lo hi (number 2 2) ((Instant.padded 2 n).toList ++ s) = .ok (n, s) :=
    (two_eq_ok_iff hhi).2 ⟨⟨hlow, hhigh⟩, rfl⟩
  have hmark (c : Char) (s : List Char) : mark c (c :: s) = .ok ((), s) := mark_eq_ok_iff.2 rfl
  have hmiddle (s : List Char) : dateTimeMark (letter :: s) = .ok ((), s) :=
    dateTimeMark_eq_ok_iff.2 ⟨letter, isSeparator_iff.2 hletter, rfl⟩
  have hfraction := fraction_places x.digits hr fun _ => hpoint
  have hdate := x.date_exists
  have hreading : (⟨⟨x.date.year.toNat, x.date.month, x.date.day⟩, x.hour, x.minute, x.second,
      placesNanos x.places⟩ : Reading) = x.reading := by
    rw [Int.toNat_of_nonneg x.year_nonneg]
    rfl
  unfold strict
  simp only [Clock.text, List.append_assoc, List.cons_append, hyear, hmark, hmiddle, hfraction, bind,
    Except.bind, htwo (by decide) hdate.1 hdate.2.1, htwo (by decide) hdate.2.2.1 x.day_le,
    htwo (by decide) (Nat.zero_le _) x.hour_le, htwo (by decide) (Nat.zero_le _) x.minute_le,
    htwo (by decide) (Nat.zero_le _) x.second_le, hreading]
  cases offset (mark ':') r with
  | error e => simp
  | ok v =>
      obtain ⟨off, rest⟩ := v
      cases rest <;> simp

theorem Stamp.strict_iff {letter : Char} {x : Clock} {off : Int} (h : Stamp letter s x off) {i : Instant} :
    strict s = .ok i ↔ x.reading.instant off = .ok i := by
  obtain ⟨hletter, zone, hzone, hs⟩ := h
  have hoffset := (zone_iff.1 hzone).1
  rw [hs, strict_text hletter x hzone.noDigit hzone.no_point]
  constructor
  · rintro ⟨off', hoffset', h⟩
    rw [hoffset] at hoffset'
    cases hoffset'
    exact h
  · intro h
    exact ⟨off, hoffset, h⟩

theorem exists_stamp_of_strict {i : Instant} (h : strict s = .ok i) : ∃ letter x off, Stamp letter s x off := by
  obtain ⟨⟨y, s1⟩, hyear, h⟩ := bind_eq_ok_iff.1 h
  obtain ⟨⟨⟨⟩, s2⟩, hmark, h⟩ := bind_eq_ok_iff.1 h
  obtain ⟨⟨m, s3⟩, hmonth, h⟩ := bind_eq_ok_iff.1 h
  obtain ⟨⟨⟨⟩, s4⟩, hmark', h⟩ := bind_eq_ok_iff.1 h
  obtain ⟨⟨d, s5⟩, hday, h⟩ := bind_eq_ok_iff.1 h
  obtain ⟨⟨⟨⟩, s6⟩, hletter, h⟩ := bind_eq_ok_iff.1 h
  obtain ⟨⟨hour, s7⟩, hhour, h⟩ := bind_eq_ok_iff.1 h
  obtain ⟨⟨⟨⟩, s8⟩, hcolon, h⟩ := bind_eq_ok_iff.1 h
  obtain ⟨⟨minute, s9⟩, hminute, h⟩ := bind_eq_ok_iff.1 h
  obtain ⟨⟨⟨⟩, s10⟩, hcolon', h⟩ := bind_eq_ok_iff.1 h
  obtain ⟨⟨second, s11⟩, hsecond, h⟩ := bind_eq_ok_iff.1 h
  obtain ⟨⟨nanos, s12⟩, hfraction, h⟩ := bind_eq_ok_iff.1 h
  obtain ⟨⟨off, rest⟩, hoffset, h⟩ := bind_eq_ok_iff.1 h
  obtain ⟨hrest, h⟩ := unless_eq_ok_iff.1 h
  obtain ⟨hyear, hs⟩ := (number_eq_ok_iff (by decide)).1 hyear
  obtain ⟨-, hs2⟩ := (two_eq_ok_iff (by decide)).1 hmonth
  obtain ⟨-, hs4⟩ := (two_eq_ok_iff (by decide)).1 hday
  obtain ⟨letter, hletter, hs5⟩ := dateTimeMark_eq_ok_iff.1 hletter
  obtain ⟨⟨-, hhour⟩, hs6⟩ := (two_eq_ok_iff (by decide)).1 hhour
  obtain ⟨⟨-, hminute⟩, hs8⟩ := (two_eq_ok_iff (by decide)).1 hminute
  obtain ⟨⟨-, hsecond⟩, hs10⟩ := (two_eq_ok_iff (by decide)).1 hsecond
  obtain ⟨places, hdigits, hs11⟩ := exists_places_of_fraction hfraction
  obtain ⟨hvalid, hbounds, -, -⟩ := instant_eq_ok_iff.1 h
  let x : Clock :=
    { date := ⟨y, m, d⟩, hour, minute, second, places
      year_nonneg := Int.natCast_nonneg y
      year_le := by dsimp only; omega
      date_exists := (Date.isValid_iff.1 hvalid).2
      hour_le := hhour, minute_le := hminute, second_le := hsecond, digits := hdigits }
  have hzone : Zone s12 off := by
    rw [Bool.not_eq_true, Bool.not_eq_false', List.isEmpty_iff] at hrest
    exact zone_iff.2 ⟨hrest ▸ hoffset, hbounds⟩
  have htext : s = x.text letter ++ s12 := by
    rw [hs, mark_eq_ok_iff.1 hmark, hs2, mark_eq_ok_iff.1 hmark', hs4, hs5, hs6, mark_eq_ok_iff.1 hcolon,
      hs8, mark_eq_ok_iff.1 hcolon', hs10, hs11]
    simp [x, Clock.text]
  exact ⟨letter, x, off, isSeparator_iff.1 hletter, s12, hzone, htext⟩

theorem strict_eq_ok_iff {i : Instant} :
    strict s = .ok i ↔ ∃ letter x off, Stamp letter s x off ∧ x.reading.instant off = .ok i := by
  constructor
  · intro h
    obtain ⟨letter, x, off, hstamp⟩ := exists_stamp_of_strict h
    exact ⟨letter, x, off, hstamp, hstamp.strict_iff.1 h⟩
  · rintro ⟨letter, x, off, hstamp, h⟩
    exact hstamp.strict_iff.2 h

end Strict

section Reading

variable {x : Clock} {off : Int} {letter : Char}

theorem Clock.time_bounds (x : Clock) : 0 ≤ x.time ∧ x.time < 86400 := by
  have hhour := x.hour_le
  have hminute := x.minute_le
  rw [Clock.time]
  omega

theorem Clock.seconds_eq (x : Clock) (off : Int) :
    x.reading.seconds off = x.date.toDays * 86400 + (x.time - off) := by
  have hsecond := x.second_le
  change x.date.toDays * 86400 + (x.hour * 3600 + x.minute * 60 + (x.second - x.second / 60) : Nat) - off = _
  rw [Clock.time]
  omega

/-- The shift goes over the end of a day at most once. -/
theorem Clock.utc_eq (x : Clock) (hlow : -86400 < off) (hhigh : off < 86400) :
    (Date.ofDays (x.reading.seconds off / 86400), x.reading.seconds off % 86400) = x.utc off := by
  have htime := x.time_bounds
  have hdate := Date.ofDays_toDays x.date_exists
  rw [x.seconds_eq, Clock.utc]
  split
  · have hday : (x.date.toDays * 86400 + (x.time - off)) / 86400 = x.date.toDays - 1 := by omega
    rw [hday, Date.ofDays_pred, hdate]
    congr 1
    omega
  · split
    · have hday : (x.date.toDays * 86400 + (x.time - off)) / 86400 = x.date.toDays + 1 := by omega
      rw [hday, Date.ofDays_succ, hdate]
      congr 1
      omega
    · have hday : (x.date.toDays * 86400 + (x.time - off)) / 86400 = x.date.toDays := by omega
      rw [hday, hdate]
      congr 1
      omega

theorem Clock.utc_year (x : Clock) (off : Int) :
    x.date.year - 1 ≤ (x.utc off).1.year ∧ (x.utc off).1.year ≤ x.date.year + 1 := by
  rw [Clock.utc]
  split
  · have h := Date.previous_year x.date
    dsimp only
    omega
  · split
    · have h := Date.next_year x.date
      dsimp only
      omega
    · dsimp only
      omega

theorem Clock.exists_instant (x : Clock) (hlow : -86400 < off) (hhigh : off < 86400) :
    ∃ i, x.reading.instant off = .ok i ∧ i.utc = x.utc off ∧ i.nanos = x.nanos := by
  have hutc := x.utc_eq hlow hhigh
  have hyear := x.utc_year off
  have hfirst := x.year_nonneg
  have hlast := x.year_le
  have hvalid : x.date.isValid := by
    refine Date.isValid_iff.2 ⟨?_, x.date_exists⟩
    unfold Date.firstYear Date.lastYear
    omega
  have hinstant : x.reading.instant off =
      .ok ⟨x.reading.seconds off, x.reading.nanos + x.reading.second / 60 * 1000000000⟩ := by
    refine instant_eq_ok_iff.2 ⟨hvalid, ⟨hlow, hhigh⟩, ?_, rfl⟩
    rw [show Date.ofDays (x.reading.seconds off / 86400) = (x.utc off).1 from congrArg Prod.fst hutc]
    unfold Date.firstYear Date.lastYear
    omega
  refine ⟨_, hinstant, hutc, ?_⟩
  have hsecond := x.second_le
  change placesNanos x.places + x.second / 60 * 1000000000 = x.nanos
  rw [Clock.nanos]
  split <;> omega

theorem strict?_clock (x : Clock) : strict? (x.text 'T') = none := by
  cases h : strict (x.text 'T') with
  | error e => rw [strict?, h]; rfl
  | ok i =>
      rw [← List.append_nil (x.text 'T')] at h
      obtain ⟨off, hoffset, -⟩ := (strict_text (by decide) x (fun c hc => by cases hc) (by simp)).1 h
      cases hoffset

theorem local?_clock (x : Clock) {i : Instant} (h : x.reading.instant 0 = .ok i) :
    local? (x.text 'T') = some i := by
  have hfirst := x.year_nonneg
  have hlast := x.year_le
  have hyear : Instant.yearText x.date.year = Instant.padded 4 x.date.year.toNat := by
    rw [Instant.yearText, if_pos (by simp [hfirst, hlast])]
  have hfraction : fraction (placesText x.places) = .ok (placesNanos x.places, []) := by
    have hplaces := fraction_places x.digits (s := []) (fun c hc => by cases hc) (by simp)
    rwa [List.append_nil] at hplaces
  have hdate := fun s => looseDate_text false (s := s) (show -0x80000000 ≤ x.date.year by omega) (by omega)
    x.date_exists
  have htime := looseTime_text false x.date x.hour_le x.minute_le x.second_le hfraction
  have hletter (s : List Char) : mark 'T' ('T' :: s) = .ok ((), s) := mark_eq_ok_iff.2 rfl
  rw [hyear] at hdate
  unfold local?
  simp only [Clock.text, hdate, hletter, htime, bind, Except.bind]
  change (x.reading.instant 0).toOption = some i
  rw [h]
  rfl

theorem Stamp.of_concat {t : List Char} (h : Stamp letter (t ++ ['Z']) x off) :
    off = 0 ∧ t = x.text letter := by
  obtain ⟨-, zone, hzone, heq⟩ := h
  cases hzone with
  | utc hc => exact ⟨rfl, List.append_inj_left' heq rfl⟩
  | @signed c sign hour minute hsign hhour hminute =>
      -- a numeric offset ends in a digit
      obtain ⟨ds, d, hds⟩ := List.eq_nil_or_concat (Instant.padded 2 minute).toList |>.resolve_left
        (List.ne_nil_of_length_pos (length_pos_padded 2 minute))
      have hd : d.isDigit := (spells_padded 2 minute).digits d (by simp [hds])
      have hsplit : x.text letter ++ c :: ((Instant.padded 2 hour).toList ++ ':' :: (ds ++ [d])) =
          (x.text letter ++ c :: ((Instant.padded 2 hour).toList ++ ':' :: ds)) ++ [d] := by simp
      rw [hds, List.concat_eq_append, hsplit] at heq
      cases List.append_inj_right' heq rfl
      cases hd

theorem Stamp.exists_instant {s : List Char} (h : Stamp letter s x off) :
    ∃ i, strict? s = some i ∧ x.reading.instant off = .ok i ∧ i.utc = x.utc off ∧ i.nanos = x.nanos := by
  obtain ⟨zone, hzone, -⟩ := h.text
  obtain ⟨-, hlow, hhigh⟩ := zone_iff.1 hzone
  obtain ⟨i, hinstant, hspec⟩ := x.exists_instant hlow hhigh
  have hstrict := h.strict_iff.2 hinstant
  exact ⟨i, by rw [strict?, hstrict]; rfl, hinstant, hspec⟩

/-- A stamp is what its clock shows less its offset, and the same without an offset as with `Z`. -/
theorem read_minus_offset :
    (∀ (t : String) (x : Clock) (offset : Int), Stamp 'T' (t ++ "Z").toList x offset →
      ∃ i, ofService? t = some i ∧ ofService? (t ++ "Z") = some i) ∧
    ∀ (s : String) (letter : Char) (x : Clock) (offset : Int), Stamp letter s.toList x offset →
      ∃ i, ofService? s = some i ∧ i.utc = x.utc offset ∧ i.nanos = x.nanos := by
  constructor
  · intro t x offset h
    obtain ⟨i, hstrict, hinstant, -⟩ := h.exists_instant
    rw [String.toList_append] at h
    obtain ⟨rfl, htext⟩ := h.of_concat
    refine ⟨i, ?_, ?_⟩
    · rw [ofService?, htext, strict?_clock, local?_clock x hinstant]
      rfl
    · rw [ofService?, hstrict]
      rfl
  · intro s letter x offset h
    obtain ⟨i, hstrict, -, hspec⟩ := h.exists_instant
    refine ⟨i, ?_, hspec⟩
    rw [ofService?, hstrict]
    rfl

def leapClock : Clock where
  date := ⟨2016, 12, 31⟩
  hour := 23
  minute := 59
  second := 60
  places := ['1', '2', '3', '4', '5', '6', '7', '8', '9', '1']
  year_nonneg := by decide
  year_le := by decide
  date_exists := ⟨by decide, by decide, by decide, by decide⟩
  hour_le := by decide
  minute_le := by decide
  second_le := by decide
  digits := List.all_eq_true.1 rfl

def marchClock : Clock where
  date := ⟨2024, 3, 1⟩
  hour := 0
  minute := 30
  second := 0
  places := ['5']
  year_nonneg := by decide
  year_le := by decide
  date_exists := ⟨by decide, by decide, by decide, by decide⟩
  hour_le := by decide
  minute_le := by decide
  second_le := by decide
  digits := List.all_eq_true.1 rfl

theorem read_minus_offset_leap :
    (Stamp 'T' ("2016-12-31T23:59:60.1234567891" ++ "Z").toList leapClock 0 ∧
      ∃ i, ofService? "2016-12-31T23:59:60.1234567891" = some i ∧
        ofService? ("2016-12-31T23:59:60.1234567891" ++ "Z") = some i) ∧
    Stamp 't' "2024-03-01t00:30:00.5+01:00".toList marchClock 3600 ∧
      ∃ i, ofService? "2024-03-01t00:30:00.5+01:00" = some i ∧
        i.utc = (⟨2024, 2, 29⟩, 84600) ∧ i.nanos = 500000000 := by
  have hleap : Stamp 'T' ("2016-12-31T23:59:60.1234567891" ++ "Z").toList leapClock 0 :=
    ⟨by decide, ['Z'], .utc (.inl rfl), by decide +kernel⟩
  have hmarch : Stamp 't' "2024-03-01t00:30:00.5+01:00".toList marchClock 3600 :=
    ⟨by decide, _, @Zone.signed '+' 1 1 0 .plus (by decide) (by decide), by decide +kernel⟩
  obtain ⟨i, hread, hutc, hnanos⟩ := read_minus_offset.2 _ 't' marchClock 3600 hmarch
  exact ⟨⟨hleap, read_minus_offset.1 _ leapClock 0 hleap⟩, hmarch, i, hread,
    hutc.trans (by decide +kernel), hnanos.trans (by decide +kernel)⟩

end Reading

end Timestamp

end WebAppTargets
