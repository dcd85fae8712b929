import Mathlib.Data.Rat.Init
import Mathlib.Algebra.Field.Rat
import WebAppTargets.Proofs.JsonGrammar

namespace WebAppTargets.Json

open Grammar

namespace Numeral

def power (x : Numeral) : Int :=
  let written : Int := x.exponent.elim 0 fun e => if e.1 then -(ofDigits e.2 : Int) else ofDigits e.2
  written - (x.fraction.getD []).length

/-- The number that is written, without rounding. -/
def number (x : Numeral) : ℚ :=
  (if x.negative then -1 else 1) * (ofDigits (x.whole ++ x.fraction.getD []) : ℚ) * 10 ^ x.power

/-- What the numeral is read as is written as the same number again. -/
def IsKept (x : Numeral) (n : Number) : Prop :=
  x.value? = some n ∧ ∃ y, IsNumeral n.text.toList y ∧ y.number = x.number

theorem ofDigits_append_singleton (ds : List Nat) (d : Nat) :
    ofDigits (ds ++ [d]) = 10 * ofDigits ds + d := by
  rw [ofDigits, List.foldl_append, Nat.mul_comm]
  rfl

theorem le_foldl (n : Nat) (ds : List Nat) : n ≤ ds.foldl (fun n d => n * 10 + d) n := by
  induction ds generalizing n with
  | nil => exact Nat.le_refl n
  | cons d ds ih => exact Nat.le_trans (by omega) (ih (n * 10 + d))

theorem eq_foldl_of_fit {n m : Nat} {ds : List Nat} (h : fit n ds = (m, [])) :
    ds.foldl (fun n d => n * 10 + d) n = m := by
  induction ds generalizing n with
  | nil => exact (Prod.ext_iff.1 h).1
  | cons d ds ih =>
      rw [fit] at h
      split at h
      · cases h
      · exact ih h

theorem of_value?_int {x : Numeral} {i : Int} (h : x.value? = some (.int i)) :
    x.fraction = none ∧ x.exponent = none ∧
      (x.negative = false ∧ i = ofDigits x.whole ∨ x.negative = true ∧ i = -ofDigits x.whole ∧ i < 0) := by
  obtain ⟨negative, whole, fraction, exponent⟩ := x
  simp only [value?] at h
  split at h
  · rename_i hfit
    have hdigits : ofDigits whole = (fit 0 whole).1 := eq_foldl_of_fit (Prod.ext rfl hfit)
    split at h
    · rename_i hsign
      cases h
      exact ⟨rfl, rfl, .inl ⟨by simpa using hsign, by rw [hdigits]⟩⟩
    · rename_i hsign
      split at h
      · rename_i hsize
        cases h
        simp only [Bool.and_eq_true, decide_eq_true_eq] at hsize
        exact ⟨rfl, rfl, .inr ⟨by simpa using hsign, by rw [hdigits], by omega⟩⟩
      · obtain ⟨u, -, hu⟩ := Option.map_eq_some_iff.1 h
        cases hu
  · obtain ⟨u, -, hu⟩ := Option.map_eq_some_iff.1 h
    cases hu

end Numeral

theorem Grammar.AreDigits.toDigits_eq {s : List Char} {ds : List Nat} (h : AreDigits s ds)
    (hzero : ds.head? = some 0 → ds = [0]) : Nat.toDigits 10 (Numeral.ofDigits ds) = s := by
  obtain ⟨rfl, hgiven, hsmall⟩ := h
  induction ds using List.reverseRecOn with
  | nil => exact absurd rfl hgiven
  | append_singleton ds d ih =>
      have hd : d < 10 := hsmall d (by simp)
      rw [Numeral.ofDigits_append_singleton, List.map_append]
      cases ds with
      | nil =>
          rw [Numeral.ofDigits, List.foldl_nil, Nat.mul_zero, Nat.zero_add]
          exact Nat.toDigits_of_lt_base hd
      | cons e r =>
          have he : e ≠ 0 := fun h => by simpa using hzero (by simp [h])
          have hpos : 0 < Numeral.ofDigits (e :: r) :=
            Nat.lt_of_lt_of_le (by omega) (Numeral.le_foldl (0 * 10 + e) r)
          rw [← Nat.toDigits_append_toDigits (by decide) hpos hd, Nat.toDigits_of_lt_base hd,
            ih (fun h => absurd (Option.some.inj h) he) (List.cons_ne_nil e r)
              fun c hc => hsmall c (List.mem_append_left _ hc)]
          rfl

/-- What is read as a whole number is written as it was. -/
theorem Grammar.IsNumeral.text_eq {s : List Char} {x : Numeral} {i : Int} (h : IsNumeral s x)
    (hi : x.value? = some (.int i)) : (Number.int i).text.toList = s := by
  obtain ⟨hfraction, hexponent, hsign⟩ := Numeral.of_value?_int hi
  obtain ⟨hs, hw, hzero, hf, he⟩ := h
  cases hfraction
  cases hexponent
  cases hf
  cases he
  simp only [List.mem_cons, Prod.mk.injEq, List.not_mem_nil, or_false] at hs
  rw [Number.text, Int.toString_eq_repr, Int.repr_eq_if, List.append_nil, List.append_nil]
  obtain ⟨hsign, rfl⟩ | ⟨hsign, rfl, hneg⟩ := hsign
  · rcases hs with ⟨rfl, hs⟩ | ⟨-, hs⟩
    · rw [if_pos (Int.natCast_nonneg _), Int.toNat_natCast, Nat.toList_repr, hw.toDigits_eq hzero]
      rfl
    · cases hs.symm.trans hsign
  · rcases hs with ⟨-, hs⟩ | ⟨rfl, hs⟩
    · cases hs.symm.trans hsign
    · rw [if_neg (Int.not_le.2 hneg), Int.neg_neg, Int.toNat_natCast, String.toList_append, Nat.toList_repr,
        hw.toDigits_eq hzero]
      rfl

theorem Grammar.IsNumeral.isKept {s : List Char} {x : Numeral} {i : Int} (h : IsNumeral s x)
    (hi : x.value? = some (.int i)) : x.IsKept (.int i) :=
  ⟨hi, x, (h.text_eq hi).symm ▸ h, rfl⟩

end WebAppTargets.Json
