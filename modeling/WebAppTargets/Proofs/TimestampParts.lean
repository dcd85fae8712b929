import WebAppTargets.Proofs.TimestampText

namespace WebAppTargets.Timestamp

variable {s r : List Char} {n : Nat}

theorem Spells.eq_padded {ds : List Char} (h : Spells ds n) (hne : 0 < ds.length) :
    n < 10 ^ ds.length ∧ ds = (Instant.padded ds.length n).toList := by
  have hlt := value_lt h.digits
  rw [h.value] at hlt
  have hpadded := spells_padded ds.length n
  refine ⟨hlt, value_injective h.digits hpadded.digits ?_ ?_⟩
  · rw [length_padded hne hlt]
  · rw [h.value, hpadded.value]

theorem number_eq_ok_iff {width : Nat} (hwidth : 0 < width) :
    number width width s = .ok (n, r) ↔ n < 10 ^ width ∧ s = (Instant.padded width n).toList ++ r := by
  constructor
  · intro h
    obtain ⟨ds, rfl, hspells, hleast, hmost⟩ := exists_digits_of_number h
    obtain rfl : ds.length = width := Nat.le_antisymm hmost hleast
    obtain ⟨hlt, htext⟩ := hspells.eq_padded hwidth
    exact ⟨hlt, congrArg (· ++ r) htext⟩
  · intro h
    have hlength := length_padded hwidth h.1
    rw [h.2]
    exact number_append (spells_padded width n) hlength.ge hlength.le (.inl hlength)

theorem two_eq_ok_iff {lo hi : Nat} (hhi : hi < 100) :
    within lo hi (number 2 2) s = .ok (n, r) ↔
      (lo ≤ n ∧ n ≤ hi) ∧ s = (Instant.padded 2 n).toList ++ r := by
  rw [within_eq_ok_iff, number_eq_ok_iff (by decide)]
  constructor
  · rintro ⟨⟨-, hs⟩, hbounds⟩
    exact ⟨hbounds, hs⟩
  · rintro ⟨hbounds, hs⟩
    exact ⟨⟨by omega, hs⟩, hbounds⟩

theorem mark_eq_ok_iff {c : Char} {u : Unit} : mark c s = .ok (u, r) ↔ s = c :: r := by
  cases s with
  | nil => simp [mark]
  | cons d t =>
      rw [mark]
      split
      · rename_i heq
        simp [heq]
      · rename_i hne
        simp [hne]

theorem dateTimeMark_eq_ok_iff {u : Unit} :
    dateTimeMark s = .ok (u, r) ↔ ∃ c, isSeparator c ∧ s = c :: r := by
  cases s with
  | nil => simp [dateTimeMark]
  | cons d t =>
      rw [dateTimeMark]
      split
      · rename_i hd
        constructor
        · rintro ⟨⟩
          exact ⟨d, hd, rfl⟩
        · rintro ⟨c, -, heq⟩
          rw [(List.cons.inj heq).2]
      · rename_i hd
        constructor
        · rintro ⟨⟩
        · rintro ⟨c, hc, heq⟩
          cases hd ((List.cons.inj heq).1 ▸ hc)

theorem value_append (ds es : List Char) :
    Timestamp.value (ds ++ es) = Timestamp.value ds * 10 ^ es.length + Timestamp.value es := by
  rw [value_eq, value_eq, value_eq, Nat.ofDigitChars_append, Nat.ofDigitChars_eq_ofDigitChars_zero,
    Nat.mul_comm]

def placesText (places : List Char) : List Char := if places = [] then [] else '.' :: places

/-- What the places after the point are in nanoseconds, those beyond the ninth cut off. -/
def placesNanos (places : List Char) : Nat := Nat.ofDigitChars 10 places 0 * 10 ^ 9 / 10 ^ places.length

variable {places : List Char}

theorem placesNanos_eq (h : ∀ c ∈ places, c.isDigit) :
    placesNanos places = Timestamp.value (places.take 9) * 10 ^ (9 - (places.take 9).length) := by
  have hlength : (places.take 9).length = min 9 places.length := List.length_take
  rw [placesNanos, ← value_eq]
  by_cases hlong : places.length ≤ 9
  · have hpow : 10 ^ 9 = 10 ^ (9 - places.length) * 10 ^ places.length := by
      rw [← Nat.pow_add, Nat.sub_add_cancel hlong]
    rw [List.take_of_length_le hlong, hpow, ← Nat.mul_assoc, Nat.mul_div_cancel _ (Nat.pow_pos (by decide))]
  · -- the digits beyond the ninth are less than one of the ninth
    have hnine : (places.take 9).length = 9 := by omega
    have hrest : Timestamp.value (places.drop 9) < 10 ^ (places.drop 9).length :=
      value_lt fun c hc => h c (List.mem_of_mem_drop hc)
    have hpow : 10 ^ places.length = 10 ^ (places.drop 9).length * 10 ^ 9 := by
      rw [← Nat.pow_add, List.length_drop]
      congr 1
      omega
    have hvalue : Timestamp.value places =
        Timestamp.value (places.take 9) * 10 ^ (places.drop 9).length + Timestamp.value (places.drop 9) := by
      rw [← value_append, List.take_append_drop]
    rw [hpow, Nat.mul_div_mul_right _ _ (Nat.pow_pos (by decide)), hvalue, hnine, Nat.sub_self, Nat.pow_zero,
      Nat.mul_one, Nat.mul_comm, Nat.mul_add_div (Nat.pow_pos (by decide)), Nat.div_eq_of_lt hrest,
      Nat.add_zero]

theorem fraction_places (h : ∀ c ∈ places, c.isDigit) (hs : NoDigit s)
    (hpoint : places = [] → '.' ∉ s.head?) :
    fraction (placesText places ++ s) = .ok (placesNanos places, s) := by
  rw [placesText]
  split
  · rename_i hnil
    rw [List.nil_append, fraction_of_no_point (hpoint hnil), hnil]
    rfl
  · rename_i hne
    rw [List.cons_append, fraction_digits h hne hs, placesNanos_eq h]

theorem exists_places_of_fraction (h : fraction s = .ok (n, r)) :
    ∃ places, (∀ c ∈ places, c.isDigit) ∧ s = placesText places ++ r := by
  unfold fraction at h
  split at h
  · obtain ⟨⟨k, u⟩, hnumber, h⟩ := bind_eq_ok_iff.1 h
    obtain ⟨ds, rfl, hspells, hpos, -⟩ := exists_digits_of_number hnumber
    cases h
    have hdigits : ∀ c ∈ ds ++ u.takeWhile Char.isDigit, c.isDigit := by
      intro c hc
      rcases List.mem_append.1 hc with hc | hc
      · exact hspells.digits c hc
      · exact List.mem_takeWhile_imp hc
    have hne : ds ++ u.takeWhile Char.isDigit ≠ [] := by
      intro hnil
      rw [(List.append_eq_nil_iff.1 hnil).1] at hpos
      cases hpos
    refine ⟨_, hdigits, ?_⟩
    rw [placesText, if_neg hne, List.cons_append, List.append_assoc, List.takeWhile_append_dropWhile]
  · cases h
    exact ⟨[], by simp, rfl⟩

theorem pair_eq_ok_iff {a b : Nat} :
    pair s = .ok (a, b, r) ↔ ∃ n < 100, (a = n / 10 ∧ b = n % 10) ∧ s = (Instant.padded 2 n).toList ++ r := by
  have hvalue (c d : Char) : Timestamp.value [c, d] = (c.toNat - 48) * 10 + (d.toNat - 48) := by
    simp [Timestamp.value]
  have hless {c : Char} (hc : c.isDigit) : c.toNat - 48 < 10 := by
    have hhigh : c.toNat ≤ 57 := (Char.isDigit_iff_toNat.1 hc).2
    omega
  constructor
  · intro h
    unfold pair at h
    split at h
    · rename_i c d t
      split at h
      · rename_i hdigits
        rw [Bool.and_eq_true] at hdigits
        have hc := hless hdigits.1
        have hd := hless hdigits.2
        cases h
        have hboth : ∀ e ∈ [c, d], e.isDigit := by simp [hdigits]
        obtain ⟨hlt, htext⟩ := Spells.eq_padded ⟨hboth, rfl⟩ Nat.two_pos
        refine ⟨Timestamp.value [c, d], hlt, ?_, congrArg (· ++ r) htext⟩
        rw [hvalue]
        omega
      · cases h
    · cases h
    · cases h
  · rintro ⟨n, hn, ⟨ha, hb⟩, hs⟩
    have hpadded := spells_padded 2 n
    have hlength : (Instant.padded 2 n).toList.length = 2 := length_padded Nat.two_pos hn
    obtain ⟨c, d, htwo⟩ := List.length_eq_two.1 hlength
    have hnumber := hpadded.value
    have hdigits := hpadded.digits
    rw [htwo] at hnumber hdigits hs
    have hc : c.isDigit := hdigits c (by simp)
    have hd : d.isDigit := hdigits d (by simp)
    have hc' := hless hc
    have hd' := hless hd
    rw [hvalue] at hnumber
    have htens : c.toNat - 48 = a := by omega
    have hunits : d.toNat - 48 = b := by omega
    simp [hs, pair, hc, hd, htens, hunits]

theorem ahead_eq_ok_iff {sign off : Int} :
    ahead (mark ':') sign s = .ok (off, r) ↔ ∃ hour < 100, ∃ minute ≤ 59,
      s = (Instant.padded 2 hour).toList ++ ':' :: ((Instant.padded 2 minute).toList ++ r) ∧
        off = sign * (hour * 3600 + minute * 60 : Nat) := by
  constructor
  · intro h
    obtain ⟨⟨a, b, t⟩, hpair, h⟩ := bind_eq_ok_iff.1 h
    obtain ⟨⟨⟨⟩, u⟩, hmark, h⟩ := bind_eq_ok_iff.1 h
    obtain ⟨⟨c, d, v⟩, hpair', h⟩ := bind_eq_ok_iff.1 h
    obtain ⟨hless, h⟩ := unless_eq_ok_iff.1 h
    obtain ⟨hour, hhour, ⟨ha, hb⟩, hs⟩ := pair_eq_ok_iff.1 hpair
    obtain ⟨minute, -, ⟨hc, hd⟩, hu⟩ := pair_eq_ok_iff.1 hpair'
    cases h
    refine ⟨hour, hhour, minute, by omega, ?_, ?_⟩
    · rw [hs, mark_eq_ok_iff.1 hmark, hu]
    · rw [ha, hb, hc, hd, Nat.div_add_mod', Nat.div_add_mod']
  · rintro ⟨hour, hhour, minute, hminute, hs, hoff⟩
    have hpair := pair_eq_ok_iff.2 ⟨hour, hhour, ⟨rfl, rfl⟩, hs⟩
    have hpair' : pair ((Instant.padded 2 minute).toList ++ r) = .ok (minute / 10, minute % 10, r) :=
      pair_eq_ok_iff.2 ⟨minute, by omega, ⟨rfl, rfl⟩, rfl⟩
    refine bind_eq_ok_iff.2 ⟨_, hpair, bind_eq_ok_iff.2 ⟨((), _), mark_eq_ok_iff.2 rfl,
      bind_eq_ok_iff.2 ⟨_, hpair', unless_eq_ok_iff.2 ⟨by omega, ?_⟩⟩⟩⟩
    rw [hoff, Nat.div_add_mod', Nat.div_add_mod']
    rfl

end WebAppTargets.Timestamp
