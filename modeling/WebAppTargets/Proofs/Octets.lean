import WebAppTargets.Text.Utf8

namespace WebAppTargets.Utf8

section Announced

theorem announced_one : ∀ n < 0x80,
    announced (UInt8.ofNat n) = some (1, 0, 0) ∧ (UInt8.ofNat n).toNat = n := by
  decide

theorem announced_two : ∀ n < 32, 2 ≤ n →
    announced (UInt8.ofNat (n + 0xC0)) = some (2, UInt8.ofNat (0 + 0x80), UInt8.ofNat (63 + 0x80)) ∧
      (UInt8.ofNat (n + 0xC0)).toNat % 32 = n := by
  decide

theorem announced_three : ∀ n < 16,
    announced (UInt8.ofNat (n + 0xE0)) =
      some (3, UInt8.ofNat ((if n = 0 then 32 else 0) + 0x80),
        UInt8.ofNat ((if n = 13 then 31 else 63) + 0x80)) ∧
      (UInt8.ofNat (n + 0xE0)).toNat % 16 = n := by
  decide

theorem announced_four : ∀ n < 5,
    announced (UInt8.ofNat (n + 0xF0)) =
      some (4, UInt8.ofNat ((if n = 0 then 16 else 0) + 0x80),
        UInt8.ofNat ((if n = 4 then 15 else 63) + 0x80)) ∧
      (UInt8.ofNat (n + 0xF0)).toNat % 8 = n := by
  decide

end Announced

section Later

theorem toNat_later : ∀ n < 64, (UInt8.ofNat (n + 0x80)).toNat = n + 0x80 := by decide

theorem later_le_iff {m n : Nat} (hm : m < 64) (hn : n < 64) :
    UInt8.ofNat (m + 0x80) ≤ UInt8.ofNat (n + 0x80) ↔ m ≤ n := by
  rw [UInt8.le_iff_toNat_le, toNat_later m hm, toNat_later n hn]
  omega

theorem later_zero (code done : Nat) (r : List UInt8) : later code done 0 r = .whole done code := rfl

theorem later_succ {n : Nat} (hn : n < 64) (code done k : Nat) (r : List UInt8) :
    later code done (k + 1) (UInt8.ofNat (n + 0x80) :: r) = later (code * 64 + n) (done + 1) k r := by
  have hle := (later_le_iff (by omega) hn).2 (Nat.zero_le n)
  have hge := (later_le_iff hn (by omega)).2 (Nat.le_of_lt_succ hn)
  rw [later, toNat_later n hn, Nat.add_sub_cancel, if_pos]
  exact Bool.and_eq_true_iff.2 ⟨decide_eq_true hle, decide_eq_true hge⟩

theorem sequence_of_announced {b : UInt8} {k lo hi n : Nat}
    (hb : announced b = some (k + 2, UInt8.ofNat (lo + 0x80), UInt8.ofNat (hi + 0x80))) (hlo : lo ≤ n)
    (hhi : n ≤ hi) (hlt : hi < 64) (r : List UInt8) :
    sequence b (UInt8.ofNat (n + 0x80) :: r) =
      later (b.toNat % Nat.pow 2 (5 - k) * 64 + n) 2 k r := by
  have hle := (later_le_iff (by omega) (by omega)).2 hlo
  have hge := (later_le_iff (by omega) hlt).2 hhi
  have hseven : 7 - (k + 2) = 5 - k := by omega
  rw [sequence, hb]
  simp only [hle, hge, decide_true, Bool.and_self, if_true, toNat_later n (by omega),
    Nat.add_sub_cancel, hseven]

end Later

theorem sequence_encodeChar (c : Char) : ∃ b t, String.utf8EncodeChar c = b :: t ∧
    ∀ r, sequence b (t ++ r) = .whole (t.length + 1) c.toNat := by
  have hvalid : c.toNat < 0xD800 ∨ 0xDFFF < c.toNat ∧ c.toNat < 0x110000 := c.valid
  rw [String.utf8EncodeChar]
  simp only [← Char.toNat.eq_def]
  generalize c.toNat = v at hvalid
  -- one case for each length of a sequence
  split
  · obtain ⟨hb, hv⟩ := announced_one v (by omega)
    refine ⟨_, _, rfl, fun r => ?_⟩
    rw [sequence, hb]
    simp only [hv]
    rfl
  split
  · obtain ⟨hb, hv⟩ := announced_two (v / 64 % 32) (by omega) (by omega)
    refine ⟨_, _, rfl, fun r => ?_⟩
    rw [List.cons_append, sequence_of_announced (k := 0) hb (by omega) (by omega) (by omega), later_zero]
    simp only [Nat.pow_eq, Nat.reducePow, Nat.reduceSub, hv]
    congr 1
    omega
  split
  · obtain ⟨hb, hv⟩ := announced_three (v / 4096 % 16) (by omega)
    refine ⟨_, _, rfl, fun r => ?_⟩
    rw [List.cons_append,
      sequence_of_announced (k := 1) hb (by split <;> omega) (by split <;> omega) (by split <;> omega),
      List.cons_append, later_succ (by omega), later_zero]
    simp only [Nat.pow_eq, Nat.reducePow, Nat.reduceSub, hv]
    congr 1
    omega
  · obtain ⟨hb, hv⟩ := announced_four (v / 262144 % 8) (by omega)
    refine ⟨_, _, rfl, fun r => ?_⟩
    rw [List.cons_append,
      sequence_of_announced (k := 2) hb (by split <;> omega) (by split <;> omega) (by split <;> omega),
      List.cons_append, later_succ (by omega), List.cons_append, later_succ (by omega), later_zero]
    simp only [Nat.pow_eq, Nat.reducePow, Nat.reduceSub, hv]
    congr 1
    omega

theorem letters_skip (t r : List UInt8) : letters t.length (t ++ r) = letters 0 r := by
  induction t with
  | nil => rfl
  | cons b t ih => exact ih

theorem encode_eq_flatMap (s : String) : encode s = s.toList.flatMap String.utf8EncodeChar := by
  rw [encode, String.toUTF8_eq_toByteArray, ← String.utf8Encode_toList, List.utf8Encode,
    List.data_toByteArray]

theorem letters_encode (s : String) : letters 0 (encode s) = s.toList.map some := by
  rw [encode_eq_flatMap]
  induction s.toList with
  | nil => rfl
  | cons c l ih =>
      obtain ⟨b, t, ht, hsequence⟩ := sequence_encodeChar c
      rw [List.flatMap_cons, ht, List.cons_append, letters, hsequence, List.map_cons]
      simp only [Nat.add_sub_cancel, letters_skip, ih, Char.ofNat_toNat]

end WebAppTargets.Utf8
