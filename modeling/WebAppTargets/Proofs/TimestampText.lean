import WebAppTargets.Proofs.Calendar
import WebAppTargets.Proofs.Cutting
import WebAppTargets.Proofs.Outcome
import WebAppTargets.Time.Timestamp

namespace WebAppTargets

namespace Timestamp

structure Spells (ds : List Char) (n : Nat) : Prop where
  digits : ∀ c ∈ ds, c.isDigit
  value : value ds = n

def NoDigit (s : List Char) : Prop := ∀ c ∈ s.head?, ¬c.isDigit

section Digits

variable {ds s : List Char} {n width : Nat}

theorem value_eq (ds : List Char) : Timestamp.value ds = Nat.ofDigitChars 10 ds 0 := by
  simp only [Timestamp.value, Nat.ofDigitChars, Nat.mul_comm]
  rfl

theorem value_cons (c : Char) (ds : List Char) :
    Timestamp.value (c :: ds) = 10 ^ ds.length * (c.toNat - 48) + Timestamp.value ds := by
  rw [value_eq, value_eq, Nat.ofDigitChars_cons, Nat.ofDigitChars_eq_ofDigitChars_zero, Nat.mul_zero,
    Nat.zero_add]
  rfl

theorem value_lt (h : ∀ c ∈ ds, c.isDigit) : Timestamp.value ds < 10 ^ ds.length := by
  induction ds with
  | nil => exact Nat.zero_lt_one
  | cons c ds ih =>
      obtain ⟨hc, hds⟩ := List.forall_mem_cons.1 h
      have hdigit : c.toNat ≤ 57 := (Char.isDigit_iff_toNat.1 hc).2
      have hrest := ih hds
      have hle : 10 ^ ds.length * (c.toNat - 48) ≤ 10 ^ ds.length * 9 := Nat.mul_le_mul_left _ (by omega)
      rw [value_cons, List.length_cons, Nat.pow_succ]
      omega

theorem value_injective {es : List Char} (hds : ∀ c ∈ ds, c.isDigit) (hes : ∀ c ∈ es, c.isDigit)
    (hlength : ds.length = es.length) (h : Timestamp.value ds = Timestamp.value es) : ds = es := by
  induction ds generalizing es with
  | nil => exact (List.length_eq_zero_iff.1 hlength.symm).symm
  | cons c ds ih =>
      cases es with
      | nil => cases hlength
      | cons d es =>
          obtain ⟨hc, hds⟩ := List.forall_mem_cons.1 hds
          obtain ⟨hd, hes⟩ := List.forall_mem_cons.1 hes
          have hlength := Nat.succ_inj.1 hlength
          have hlt := value_lt hds
          have hlt' := value_lt hes
          rw [value_cons, value_cons, hlength] at h
          rw [hlength] at hlt
          have hrest : Timestamp.value ds = Timestamp.value es := by
            have hmod := congrArg (· % 10 ^ es.length) h
            simpa [Nat.mul_add_mod, Nat.mod_eq_of_lt hlt, Nat.mod_eq_of_lt hlt'] using hmod
          have hfirst : c.toNat - 48 = d.toNat - 48 := by
            rw [hrest] at h
            exact Nat.eq_of_mul_eq_mul_left (Nat.pow_pos (by decide)) (Nat.add_right_cancel h)
          have hlow : 48 ≤ c.toNat := (Char.isDigit_iff_toNat.1 hc).1
          have hlow' : 48 ≤ d.toNat := (Char.isDigit_iff_toNat.1 hd).1
          rw [ih hds hes hlength hrest, Char.toNat_inj.1 (show c.toNat = d.toNat by omega)]

theorem spells_padded (width n : Nat) : Spells (Instant.padded width n).toList n := by
  have htext : (Instant.padded width n).toList =
      List.replicate (width - (Nat.toDigits 10 n).length) '0' ++ Nat.toDigits 10 n := by
    simp [Instant.padded, Nat.toString_eq_repr, Nat.toList_repr, ← String.length_toList]
  rw [htext]
  constructor
  · intro c hc
    rcases List.mem_append.1 hc with hc | hc
    · rw [List.eq_of_mem_replicate hc]
      rfl
    · exact Nat.isDigit_of_mem_toDigits (by decide) (by decide) hc
  · rw [value_eq, Nat.ofDigitChars_append, Nat.ofDigitChars_replicate_zero, Nat.mul_zero,
      Nat.ofDigitChars_toDigits (by decide) (by decide)]

theorem length_padded (hwidth : 0 < width) (h : n < 10 ^ width) :
    (Instant.padded width n).toList.length = width := by
  have hlength := (Nat.length_toDigits_le_iff (b := 10) (by decide) hwidth).2 h
  simp [Instant.padded, Nat.toString_eq_repr, Nat.toList_repr, ← String.length_toList]
  omega

theorem length_pos_padded (width n : Nat) : 0 < (Instant.padded width n).toList.length := by
  have hpos : 0 < (Nat.toDigits 10 n).length := Nat.length_toDigits_pos
  simp [Instant.padded, Nat.toString_eq_repr, Nat.toList_repr, ← String.length_toList]
  omega

theorem number_append {least most : Nat} (h : Spells ds n) (hleast : least ≤ ds.length)
    (hmost : ds.length ≤ most) (hstop : ds.length = most ∨ NoDigit s) :
    number least most (ds ++ s) = .ok (n, s) := by
  have htake : ((ds ++ s).take most).takeWhile Char.isDigit = ds := by
    -- there is no room for another digit, or none follows
    have hrest : (s.take (most - ds.length)).takeWhile Char.isDigit = [] := by
      rcases hstop with hfull | hstop
      · rw [hfull, Nat.sub_self, List.take_zero, List.takeWhile_nil]
      · cases s with
        | nil => rw [List.take_nil, List.takeWhile_nil]
        | cons c s =>
            have hc : ¬c.isDigit := hstop c rfl
            cases most - ds.length with
            | zero => rfl
            | succ k => rw [List.take_succ_cons, List.takeWhile_cons, if_neg hc]
    rw [List.take_append, List.take_of_length_le hmost, List.takeWhile_append_of_pos h.digits, hrest,
      List.append_nil]
  rw [number]
  simp only [htake]
  rw [if_neg (Nat.not_lt.2 hleast), h.value, List.drop_left]

end Digits

section Steps

variable {ds s : List Char} {n : Nat}

theorem isBlank_of_isDigit {c : Char} (h : c.isDigit) : Text.isBlank c = false := by
  obtain ⟨hlow, hhigh⟩ := Char.isDigit_iff_toNat.1 h
  change 48 ≤ c.toNat at hlow
  change c.toNat ≤ 57 at hhigh
  simp [Text.isBlank]
  omega

theorem trimStart_digits (h : ∀ c ∈ ds, c.isDigit) (hne : ds ≠ []) (s : List Char) :
    Text.trimStart (ds ++ s) = ds ++ s := by
  obtain ⟨c, r, rfl⟩ := List.exists_cons_of_ne_nil hne
  exact Text.trimStart_cons (isBlank_of_isDigit (h c List.mem_cons_self))

theorem within_eq_ok_iff {lo hi : Nat} {r : List Char} {step : Step Nat} :
    within lo hi step s = .ok (n, r) ↔ step s = .ok (n, r) ∧ lo ≤ n ∧ n ≤ hi := by
  unfold within
  rw [bind_eq_ok_iff]
  constructor
  · rintro ⟨⟨m, t⟩, hstep, h⟩
    dsimp only at h
    split at h
    · rename_i hbounds
      cases h
      exact ⟨hstep, by simpa using hbounds⟩
    · cases h
  · rintro ⟨hstep, hlow, hhigh⟩
    exact ⟨_, hstep, if_pos (by simp [hlow, hhigh])⟩

theorem looseNumber_two {lo hi : Nat} (hlo : lo ≤ n) (hhi : n ≤ hi) (hn : n < 100) (s : List Char) :
    looseNumber lo hi ((Instant.padded 2 n).toList ++ s) = .ok (n, s) := by
  have hspells := spells_padded 2 n
  have hlength : (Instant.padded 2 n).toList.length = 2 := length_padded (by decide) hn
  have hne : (Instant.padded 2 n).toList ≠ [] := List.ne_nil_of_length_eq_add_one hlength
  have hnumber : number 1 2 ((Instant.padded 2 n).toList ++ s) = .ok (n, s) :=
    number_append hspells (by omega) (by omega) (.inl hlength)
  rw [looseNumber, trimStart_digits hspells.digits hne]
  exact within_eq_ok_iff.2 ⟨hnumber, hlo, hhi⟩

theorem looseMark_self (spaced : Bool) {c : Char} (hc : Text.isBlank c = false) (s : List Char) :
    looseMark spaced c (c :: s) = .ok ((), s) := by
  rw [looseMark, Text.trimStart_cons hc, ite_self, mark, if_pos rfl]

def signed : Step Int
  | '-' :: r => (fun (n, r) => (-(n : Int), r)) <$> number 1 r.length.succ r
  | '+' :: r => (fun (n, r) => ((n : Int), r)) <$> number 1 r.length.succ r
  | s => (fun (n, r) => ((n : Int), r)) <$> number 1 4 s

theorem signed_minus (r : List Char) :
    signed ('-' :: r) = (fun (n, r) => (-(n : Int), r)) <$> number 1 r.length.succ r := rfl

theorem signed_plus (r : List Char) :
    signed ('+' :: r) = (fun (n, r) => ((n : Int), r)) <$> number 1 r.length.succ r := rfl

/-- The bounds of a year are too large for anything here to be computed. -/
theorem year_eq (s : List Char) :
    year s = signed (Text.trimStart s) >>= fun (y, r) =>
      if -0x80000000 ≤ y && y < 0x80000000 then pure (y, r) else throw .outOfRange := by
  unfold year
  split
  · rename_i r heq
    rw [heq, signed_minus, bind_map_left]
    simp only [pure_bind]
  · rename_i r heq
    rw [heq, signed_plus, bind_map_left]
    simp only [pure_bind]
  · rename_i hminus hplus
    rw [signed.eq_3 _ hminus hplus, bind_map_left]
    simp only [pure_bind]

theorem signed_digits {c : Char} (hc : c.isDigit) (r : List Char) :
    signed (c :: r) = (fun (n, r) => ((n : Int), r)) <$> number 1 4 (c :: r) := by
  unfold signed
  split
  · rename_i heq
    cases heq
    cases hc
  · rename_i heq
    cases heq
    cases hc
  · rfl

theorem signed_text (y : Int) (hs : NoDigit s) :
    signed (Text.trimStart ((Instant.yearText y).toList ++ s)) = .ok (y, s) := by
  have hany (n : Nat) : number 1 ((Instant.padded 4 n).toList ++ s).length.succ
      ((Instant.padded 4 n).toList ++ s) = .ok (n, s) := by
    have hspells := spells_padded 4 n
    refine number_append hspells (length_pos_padded 4 n) ?_ (.inr hs)
    rw [List.length_append]
    omega
  unfold Instant.yearText
  split
  · rename_i h
    rw [Bool.and_eq_true, decide_eq_true_eq, decide_eq_true_eq] at h
    have hspells := spells_padded 4 y.toNat
    have hlength : (Instant.padded 4 y.toNat).toList.length = 4 := length_padded (by decide) (by omega)
    have hne := List.ne_nil_of_length_eq_add_one hlength
    have hnumber : number 1 4 ((Instant.padded 4 y.toNat).toList ++ s) = .ok (y.toNat, s) :=
      number_append hspells (by omega) (by omega) (.inl hlength)
    obtain ⟨c, r, hds⟩ := List.exists_cons_of_ne_nil hne
    have hc : c.isDigit := hspells.digits c (by simp [hds])
    rw [trimStart_digits hspells.digits hne, hds, List.cons_append, signed_digits hc, ← List.cons_append,
      ← hds, hnumber]
    simp only [Functor.map, Except.map, Int.toNat_of_nonneg h.1]
  · by_cases hy : y < 0
    · have hminus : ("-" ++ Instant.padded 4 y.natAbs).toList = '-' :: (Instant.padded 4 y.natAbs).toList := by
        simp
      rw [if_pos hy, hminus, List.cons_append, Text.trimStart_cons (by decide), signed_minus, hany]
      simp only [Functor.map, Except.map, Int.ofNat_natAbs_of_nonpos (Int.le_of_lt hy), Int.neg_neg]
    · have hplus : ("+" ++ Instant.padded 4 y.natAbs).toList = '+' :: (Instant.padded 4 y.natAbs).toList := by
        simp
      rw [if_neg hy, hplus, List.cons_append, Text.trimStart_cons (by decide), signed_plus, hany]
      simp only [Functor.map, Except.map, Int.natAbs_of_nonneg (Int.le_of_not_gt hy)]

theorem year_text {y : Int} (hlow : -0x80000000 ≤ y) (hhigh : y < 0x80000000) (hs : NoDigit s) :
    year ((Instant.yearText y).toList ++ s) = .ok (y, s) := by
  have hrange : (-0x80000000 ≤ y && y < 0x80000000) = true := by
    rw [Bool.and_eq_true, decide_eq_true_eq, decide_eq_true_eq]
    exact ⟨hlow, hhigh⟩
  rw [year_eq, signed_text y hs]
  exact if_pos hrange

theorem dropWhile_of_noDigit (hs : NoDigit s) : s.dropWhile Char.isDigit = s := by
  cases s with
  | nil => rfl
  | cons c s => rw [List.dropWhile_cons, if_neg (hs c rfl)]

theorem fraction_digits (h : ∀ c ∈ ds, c.isDigit) (hne : ds ≠ []) (hs : NoDigit s) :
    fraction ('.' :: (ds ++ s)) =
      .ok (Timestamp.value (ds.take 9) * 10 ^ (9 - (ds.take 9).length), s) := by
  have hdigits : ∀ c ∈ ds.take 9, c.isDigit := fun c hc => h c (List.mem_of_mem_take hc)
  have hpos : 0 < ds.length := List.length_pos_iff.2 hne
  have hlength : (ds.take 9).length = min 9 ds.length := List.length_take
  have hsplit : ds ++ s = ds.take 9 ++ (ds.drop 9 ++ s) := by
    rw [← List.append_assoc, List.take_append_drop]
  have hnumber : number 1 9 (ds ++ s) = .ok (Timestamp.value (ds.take 9), ds.drop 9 ++ s) := by
    rw [hsplit]
    refine number_append ⟨hdigits, rfl⟩ (by omega) (by omega) ?_
    by_cases hlong : 9 ≤ ds.length
    · exact .inl (by omega)
    · rw [List.drop_eq_nil_of_le (by omega)]
      exact .inr hs
  have htake : (ds ++ s).take ((ds ++ s).length - (ds.drop 9 ++ s).length) = ds.take 9 := by
    rw [hsplit, List.length_append, Nat.add_sub_cancel, List.take_left]
  have hrest : (ds.drop 9 ++ s).dropWhile Char.isDigit = s := by
    rw [List.dropWhile_append_of_pos fun c hc => h c (List.mem_of_mem_drop hc), dropWhile_of_noDigit hs]
  rw [fraction, hnumber]
  simp only [bind, Except.bind, htake, hrest]
  rfl

theorem fraction_padded {width k : Nat} (hpos : 0 < width) (hwidth : width ≤ 9) (hk : k < 10 ^ width)
    (hs : NoDigit s) :
    fraction ('.' :: ((Instant.padded width k).toList ++ s)) = .ok (k * 10 ^ (9 - width), s) := by
  have hspells := spells_padded width k
  have hlength := length_padded hpos hk
  have htake : (Instant.padded width k).toList.take 9 = (Instant.padded width k).toList :=
    List.take_of_length_le (by omega)
  rw [fraction_digits hspells.digits (List.ne_nil_of_length_pos (by omega)) hs, htake, hspells.value,
    hlength]

theorem fraction_of_no_point (hpoint : '.' ∉ s.head?) : fraction s = .ok (0, s) := by
  unfold fraction
  split
  · cases hpoint rfl
  · rfl

theorem fraction_text {nanos : Nat} (h : nanos < 1000000000) (hs : NoDigit s) (hpoint : '.' ∉ s.head?) :
    fraction ((Instant.fractionText nanos).toList ++ s) = .ok (nanos, s) := by
  have htext (width k : Nat) : ("." ++ Instant.padded width k).toList ++ s =
      '.' :: ((Instant.padded width k).toList ++ s) := by simp
  unfold Instant.fractionText
  split
  · rename_i hzero
    rw [hzero]
    exact fraction_of_no_point hpoint
  · split
    · rename_i hmillis
      have hback : nanos / 1000000 * 10 ^ (9 - 3) = nanos :=
        Nat.div_mul_cancel (Nat.dvd_of_mod_eq_zero hmillis)
      rw [htext, fraction_padded (by decide) (by decide) (by omega) hs, hback]
    · split
      · rename_i hmicros
        have hback : nanos / 1000 * 10 ^ (9 - 6) = nanos :=
          Nat.div_mul_cancel (Nat.dvd_of_mod_eq_zero hmicros)
        rw [htext, fraction_padded (by decide) (by decide) (by omega) hs, hback]
      · rw [htext, fraction_padded (by decide) (by decide) (by omega) hs, Nat.sub_self, Nat.pow_zero,
          Nat.mul_one]

theorem noDigit_cons {c : Char} (h : ¬c.isDigit) (s : List Char) : NoDigit (c :: s) := by
  rintro d ⟨⟩
  exact h

theorem looseDate_text {d : Date} (spaced : Bool) (hlow : -0x80000000 ≤ d.year) (hhigh : d.year < 0x80000000)
    (hd : d.Exists) (s : List Char) :
    looseDate spaced ((Instant.yearText d.year).toList ++ '-' :: ((Instant.padded 2 d.month).toList ++
      '-' :: ((Instant.padded 2 d.day).toList ++ s))) = .ok (d, s) := by
  obtain ⟨hmonth, hmonth', hday, hday'⟩ := hd
  have hday' := hday'.trans (Date.daysInMonth_le d.year d.month)
  unfold looseDate
  rw [year_text hlow hhigh (noDigit_cons (by decide) _)]
  simp only [bind, Except.bind, looseMark_self spaced (c := '-') (by decide),
    looseNumber_two hmonth hmonth' (by omega), looseNumber_two hday hday' (by omega)]
  rfl

theorem looseTime_text (spaced : Bool) (d : Date) {hour minute second nanos : Nat} {r : List Char}
    (hhour : hour ≤ 23) (hminute : minute ≤ 59) (hsecond : second ≤ 60) (hr : fraction r = .ok (nanos, s)) :
    looseTime spaced d ((Instant.padded 2 hour).toList ++ ':' :: ((Instant.padded 2 minute).toList ++
      ':' :: ((Instant.padded 2 second).toList ++ r))) = .ok (⟨d, hour, minute, second, nanos⟩, s) := by
  unfold looseTime
  rw [looseNumber_two (Nat.zero_le _) hhour (by omega)]
  simp only [bind, Except.bind, looseMark_self spaced (c := ':') (by decide),
    looseNumber_two (Nat.zero_le _) hminute (by omega), looseNumber_two (Nat.zero_le _) hsecond (by omega), hr]
  rfl

end Steps

end Timestamp

/-- An instant that has a timestamp: it is in a year of the calendar, and if it is in a leap second, that
is the last of a minute. -/
structure Instant.Tellable (t : Instant) : Prop where
  nanos : t.nanos < 2000000000
  leap : 1000000000 ≤ t.nanos → t.seconds % 60 = 59
  first : Date.firstYear ≤ (Date.ofDays (t.seconds / 86400)).year
  last : (Date.ofDays (t.seconds / 86400)).year ≤ Date.lastYear

namespace Timestamp

/-- Seconds since the start of 1970, for a clock that is `offset` seconds ahead of UTC. -/
def Reading.seconds (x : Reading) (offset : Int) : Int :=
  x.date.toDays * 86400 + (x.hour * 3600 + x.minute * 60 + (x.second - x.second / 60) : Nat) - offset

theorem instant_eq_ok_iff {x : Reading} {offset : Int} {t : Instant} :
    x.instant offset = .ok t ↔ x.date.isValid ∧ (-86400 < offset ∧ offset < 86400) ∧
      (Date.firstYear ≤ (Date.ofDays (x.seconds offset / 86400)).year ∧
        (Date.ofDays (x.seconds offset / 86400)).year ≤ Date.lastYear) ∧
      t = ⟨x.seconds offset, x.nanos + x.second / 60 * 1000000000⟩ := by
  unfold Reading.instant
  rw [unless_eq_ok_iff, unless_eq_ok_iff, unless_eq_ok_iff]
  simp only [Bool.not_eq_eq_eq_not, Bool.not_true, Bool.not_eq_false, Bool.or_eq_true, decide_eq_true_eq,
    not_or, Int.not_le, Int.not_lt]
  refine and_congr_right fun _ => and_congr_right fun _ => and_congr_right fun _ => ?_
  constructor
  · rintro ⟨⟩
    rfl
  · rintro rfl
    rfl

theorem instant_reading {t : Instant} (h : t.Tellable) {time leap : Nat} (htime : t.seconds % 86400 = time)
    (hleap : t.nanos / 1000000000 = leap) :
    Reading.instant ⟨Date.ofDays (t.seconds / 86400), time / 3600, time / 60 % 60, time % 60 + leap,
      t.nanos % 1000000000⟩ 0 = .ok t := by
  obtain ⟨hnanos, hminute, hfirst, hlast⟩ := h
  have hvalid : (Date.ofDays (t.seconds / 86400)).isValid :=
    Date.isValid_iff.2 ⟨⟨hfirst, hlast⟩, Date.exists_ofDays _⟩
  have hover : (time % 60 + leap) / 60 = leap := by omega
  have hseconds : Reading.seconds ⟨Date.ofDays (t.seconds / 86400), time / 3600, time / 60 % 60,
      time % 60 + leap, t.nanos % 1000000000⟩ 0 = t.seconds := by
    rw [Reading.seconds]
    dsimp only
    rw [Date.toDays_ofDays, hover]
    omega
  have hback : t.nanos % 1000000000 + leap * 1000000000 = t.nanos := by omega
  rw [instant_eq_ok_iff, hseconds]
  dsimp only
  rw [hover, hback]
  exact ⟨hvalid, by decide, ⟨hfirst, hlast⟩, rfl⟩

theorem dateTimeMark_letter (s : List Char) : dateTimeMark ('T' :: s) = .ok ((), s) := rfl

theorem lenient_text {t : Instant} (h : t.Tellable) : lenient t.text.toList = .ok t := by
  obtain ⟨time, htime⟩ : ∃ time : Nat, t.seconds % 86400 = time := Int.eq_ofNat_of_zero_le (by omega)
  obtain ⟨leap, hleap⟩ : ∃ leap, t.nanos / 1000000000 = leap := ⟨_, rfl⟩
  have hinstant := instant_reading h htime hleap
  obtain ⟨hnanos, hminute, hfirst, hlast⟩ := h
  unfold Date.firstYear at hfirst
  unfold Date.lastYear at hlast
  have hdate := Date.exists_ofDays (t.seconds / 86400)
  have hsecond : time % 60 + leap ≤ 60 := by omega
  have htext : t.text.toList =
      (Instant.yearText (Date.ofDays (t.seconds / 86400)).year).toList ++
      '-' :: ((Instant.padded 2 (Date.ofDays (t.seconds / 86400)).month).toList ++
      '-' :: ((Instant.padded 2 (Date.ofDays (t.seconds / 86400)).day).toList ++
      'T' :: ((Instant.padded 2 (time / 3600)).toList ++
      ':' :: ((Instant.padded 2 (time / 60 % 60)).toList ++
      ':' :: ((Instant.padded 2 (time % 60 + leap)).toList ++
      ((Instant.fractionText (t.nanos % 1000000000)).toList ++ ['Z'])))))) := by
    simp [Instant.text, htime, hleap]
  have hfraction : fraction ((Instant.fractionText (t.nanos % 1000000000)).toList ++ ['Z']) =
      .ok (t.nanos % 1000000000, ['Z']) :=
    fraction_text (by omega) (noDigit_cons (by decide) []) (by decide)
  have htimeOfDay := looseTime_text true (Date.ofDays (t.seconds / 86400))
    (show time / 3600 ≤ 23 by omega) (show time / 60 % 60 ≤ 59 by omega) hsecond hfraction
  rw [htext]
  unfold lenient
  rw [looseDate_text true (by omega) (by omega) hdate]
  simp only [bind, Except.bind, dateTimeMark_letter, htimeOfDay]
  exact hinstant

/-- A leap second, and the last second before the year 0. -/
example : (⟨1483228799, 1123456789⟩ : Instant).text = "2016-12-31T23:59:60.123456789Z" ∧
    (⟨-62167219201, 0⟩ : Instant).text = "-0001-12-31T23:59:59Z" := by decide +kernel

section Bounds

variable {s r : List Char} {n : Nat}

theorem exists_digits_of_number {least most : Nat} (h : number least most s = .ok (n, r)) :
    ∃ ds, s = ds ++ r ∧ Spells ds n ∧ least ≤ ds.length ∧ ds.length ≤ most := by
  unfold number at h
  dsimp only at h
  split at h
  · cases h
  · rename_i hleast
    cases h
    refine ⟨(s.take most).takeWhile Char.isDigit, ?_, ⟨fun c hc => List.mem_takeWhile_imp hc, rfl⟩,
      Nat.le_of_not_lt hleast, ?_⟩
    · have hprefix := (List.takeWhile_prefix Char.isDigit (l := s.take most)).trans (List.take_prefix most s)
      exact (List.prefix_iff_eq_append.1 hprefix).symm
    · exact (List.takeWhile_prefix _).length_le.trans (List.length_take_le _ _)

theorem looseNumber_bounds {lo hi : Nat} (h : looseNumber lo hi s = .ok (n, r)) : lo ≤ n ∧ n ≤ hi :=
  (within_eq_ok_iff.1 h).2

theorem fraction_lt (h : fraction s = .ok (n, r)) : n < 1000000000 := by
  unfold fraction at h
  split at h
  · obtain ⟨⟨k, t⟩, hnumber, h⟩ := bind_eq_ok_iff.1 h
    obtain ⟨ds, rfl, hspells, -, hlength⟩ := exists_digits_of_number hnumber
    cases h
    have htake : (ds ++ t).take ((ds ++ t).length - t.length) = ds := by
      rw [List.length_append, Nat.add_sub_cancel, List.take_left]
    rw [htake]
    have hlt : Timestamp.value ds * 10 ^ (9 - ds.length) < 10 ^ ds.length * 10 ^ (9 - ds.length) :=
      Nat.mul_lt_mul_of_pos_right (value_lt hspells.digits) (Nat.pow_pos (by decide))
    rwa [← Nat.pow_add, Nat.add_sub_of_le hlength] at hlt
  · cases h
    decide

theorem looseTime_bounds {spaced : Bool} {d : Date} {x : Reading} (h : looseTime spaced d s = .ok (x, r)) :
    x.second ≤ 60 ∧ x.nanos < 1000000000 := by
  obtain ⟨_, -, h⟩ := bind_eq_ok_iff.1 h
  obtain ⟨_, -, h⟩ := bind_eq_ok_iff.1 h
  obtain ⟨_, -, h⟩ := bind_eq_ok_iff.1 h
  obtain ⟨_, -, h⟩ := bind_eq_ok_iff.1 h
  obtain ⟨second, hsecond, h⟩ := bind_eq_ok_iff.1 h
  obtain ⟨nanos, hnanos, h⟩ := bind_eq_ok_iff.1 h
  cases h
  exact ⟨(looseNumber_bounds hsecond).2, fraction_lt hnanos⟩

def ahead (separator : Step Unit) (sign : Int) : Step Int := fun s => do
  let (a, b, s) ← pair s
  let (_, s) ← separator s
  let (c, d, s) ← pair s
  if 5 < c then throw .outOfRange
  return (sign * ((a * 10 + b) * 3600 + (c * 10 + d) * 60 : Nat), s)

inductive IsSign : Char → Int → Prop
  | plus : IsSign '+' 1
  | hyphen : IsSign '-' (-1)
  | minus : IsSign '−' (-1)

theorem offset_sign {separator : Step Unit} {c : Char} {sign : Int} (h : IsSign c sign) (s : List Char) :
    offset separator (c :: s) = ahead separator sign s := by
  cases h with
  | plus => rfl
  | hyphen => rfl
  | minus => rfl

theorem offset_eq_ok_iff {separator : Step Unit} {off : Int} :
    offset separator s = .ok (off, r) ↔ (off = 0 ∧ (s = 'Z' :: r ∨ s = 'z' :: r)) ∨
      ∃ c sign t, IsSign c sign ∧ s = c :: t ∧ ahead separator sign t = .ok (off, r) := by
  constructor
  · intro h
    cases s with
    | nil => cases h
    | cons c t =>
        unfold offset at h
        dsimp only at h
        split at h
        · rename_i hc
          cases h
          rw [Bool.or_eq_true, decide_eq_true_eq, decide_eq_true_eq] at hc
          exact .inl ⟨rfl, hc.imp (congrArg (· :: r)) (congrArg (· :: r))⟩
        · split at h
          · rename_i hc
            exact .inr ⟨c, 1, t, hc ▸ .plus, rfl, h⟩
          · split at h
            · rename_i hc
              rw [Bool.or_eq_true, decide_eq_true_eq, decide_eq_true_eq] at hc
              rcases hc with rfl | hc
              · exact .inr ⟨'-', -1, t, .hyphen, rfl, h⟩
              · obtain rfl : c = '−' := Char.toNat_inj.1 hc
                exact .inr ⟨'−', -1, t, .minus, rfl, h⟩
            · cases h
  · rintro (⟨rfl, rfl | rfl⟩ | ⟨c, sign, t, hc, rfl, h⟩)
    · rfl
    · rfl
    · rw [offset_sign hc, h]

theorem offset_emod {separator : Step Unit} {off : Int} (h : offset separator s = .ok (off, r)) :
    off % 60 = 0 := by
  rcases offset_eq_ok_iff.1 h with ⟨rfl, -⟩ | ⟨-, sign, t, -, -, h⟩
  · rfl
  · obtain ⟨⟨a, b, _⟩, -, h⟩ := bind_eq_ok_iff.1 h
    obtain ⟨_, -, h⟩ := bind_eq_ok_iff.1 h
    obtain ⟨⟨c, d, _⟩, -, h⟩ := bind_eq_ok_iff.1 h
    obtain ⟨-, h⟩ := unless_eq_ok_iff.1 h
    cases h
    have hminutes : (a * 10 + b) * 3600 + (c * 10 + d) * 60 = 60 * ((a * 10 + b) * 60 + (c * 10 + d)) := by
      omega
    rw [hminutes, Int.natCast_mul, ← Int.mul_assoc, Int.mul_comm sign, Int.mul_assoc]
    exact Int.mul_emod_right _ _

theorem Reading.tellable {x : Reading} {off : Int} {t : Instant} (h : x.instant off = .ok t)
    (hsecond : x.second ≤ 60) (hnanos : x.nanos < 1000000000) (hoff : off % 60 = 0) : t.Tellable := by
  obtain ⟨-, -, ⟨hfirst, hlast⟩, rfl⟩ := instant_eq_ok_iff.1 h
  refine ⟨?_, ?_, hfirst, hlast⟩
  · dsimp only
    omega
  · dsimp only
    intro hleap
    -- only second 60 gives so many, and an offset of whole minutes leaves it at the end of one
    have hfull : x.second = 60 := by omega
    rw [Reading.seconds, hfull]
    omega

theorem tellable_of_lenient {t : Instant} (h : lenient s = .ok t) : t.Tellable := by
  obtain ⟨_, -, h⟩ := bind_eq_ok_iff.1 h
  obtain ⟨_, -, h⟩ := bind_eq_ok_iff.1 h
  obtain ⟨⟨x, r⟩, hx, h⟩ := bind_eq_ok_iff.1 h
  obtain ⟨hsecond, hnanos⟩ := looseTime_bounds hx
  dsimp only at h
  split at h
  · obtain ⟨-, h⟩ := unless_eq_ok_iff.1 h
    exact Reading.tellable h hsecond hnanos rfl
  · obtain ⟨⟨off, rest⟩, hoffset, h⟩ := bind_eq_ok_iff.1 h
    obtain ⟨-, h⟩ := unless_eq_ok_iff.1 h
    exact Reading.tellable h hsecond hnanos (offset_emod hoffset)

end Bounds

end Timestamp

end WebAppTargets
