import Mathlib.Data.List.Basic
import WebAppTargets.Text.Base64
import WebAppTargets.Text.Utf8

namespace WebAppTargets

theorem Utf8.encode_ofList {s : List Char} (h : ∀ c ∈ s, c.toNat < 128) :
    Utf8.encode (String.ofList s) = s.map Char.toUInt8 := by
  have hs : s.flatMap String.utf8EncodeChar = s.map Char.toUInt8 := by
    rw [List.map_eq_flatMap]
    apply List.flatMap_congr
    intro c hc
    apply String.utf8EncodeChar_eq_singleton
    rw [Char.utf8Size_eq_one_iff, UInt32.le_iff_toNat_le]
    exact Nat.le_of_lt_succ (h c hc)
  rw [encode, String.toUTF8_eq_toByteArray, String.toByteArray_ofList, List.utf8Encode, hs,
    List.data_toByteArray]

namespace Base64

theorem bits?_symbol {n : Nat} (h : n < 64) : bits? (symbol n).toUInt8 = some n := by
  have key : ∀ n < 64, bits? (symbol n).toUInt8 = some n := by decide
  exact key n h

theorem symbol_ne_pad {n : Nat} (h : n < 64) : (symbol n).toUInt8 ≠ pad := by
  intro he
  have hb := bits?_symbol h
  rw [he] at hb
  exact absurd hb (by simp [bits?, pad])

theorem exists_lt_symbol (n : Nat) : ∃ k < 64, symbol n = symbol k := by
  by_cases h : n < 64
  · exact ⟨n, h, rfl⟩
  · refine ⟨63, by decide, ?_⟩
    unfold symbol
    rw [if_neg (by omega), if_neg (by omega), if_neg (by omega), if_neg (by omega)]
    rfl

theorem symbol_plain (n : Nat) : (symbol n).toNat < 128 ∧ symbol n ≠ '"' := by
  have key : ∀ k < 64, (symbol k).toNat < 128 ∧ symbol k ≠ '"' := by decide
  obtain ⟨k, hk, hs⟩ := exists_lt_symbol n
  rw [hs]
  exact key k hk

theorem mem_encode {l : List UInt8} {c : Char} (h : c ∈ encode l) :
    (∃ n, c = symbol n) ∨ c = '=' := by
  induction l using encode.induct with
  | case1 a b d r ih =>
      simp only [encode, List.mem_cons] at h
      obtain h | h | h | h | h := h
      exacts [.inl ⟨_, h⟩, .inl ⟨_, h⟩, .inl ⟨_, h⟩, .inl ⟨_, h⟩, ih h]
  | case2 a b =>
      simp only [encode, List.mem_cons, List.not_mem_nil, or_false] at h
      obtain h | h | h | h := h
      exacts [.inl ⟨_, h⟩, .inl ⟨_, h⟩, .inl ⟨_, h⟩, .inr h]
  | case3 a =>
      simp only [encode, List.mem_cons, List.not_mem_nil, or_false] at h
      obtain h | h | h | h := h
      exacts [.inl ⟨_, h⟩, .inl ⟨_, h⟩, .inr h, .inr h]
  | case4 => exact absurd h List.not_mem_nil

theorem plain_of_mem_encode {l : List UInt8} {c : Char} (h : c ∈ encode l) :
    c.toNat < 128 ∧ c ≠ '"' := by
  obtain ⟨n, rfl⟩ | rfl := mem_encode h
  · exact symbol_plain n
  · decide

def symbols (ns : List Nat) : List UInt8 := ns.map fun n => (symbol n).toUInt8

theorem values_symbols (i : Nat) {ns : List Nat} (h : ∀ n ∈ ns, n < 64) :
    values i (symbols ns) = .ok ns := by
  induction ns generalizing i with
  | nil => rfl
  | cons n r ih =>
      have hr := ih (i + 1) fun k hk => h k (List.mem_cons_of_mem n hk)
      have hn := bits?_symbol (h n List.mem_cons_self)
      simp only [symbols] at hr
      simp [symbols, values, hn, hr, Except.map]

theorem lastGroup_symbols (i : Nat) {ns : List Nat} {p : Nat} (h : ∀ n ∈ ns, n < 64)
    (hl : ns.length + p = 4) (h2 : 2 ≤ ns.length) (hu : hasUnusedBits ns = false) :
    lastGroup i (symbols ns ++ List.replicate p pad) = .ok (octets ns) := by
  have hs : ∀ b ∈ symbols ns, (b != pad) = true := by
    intro b hb
    obtain ⟨n, hn, rfl⟩ := List.mem_map.1 hb
    simpa using symbol_ne_pad (h n hn)
  have ht : (symbols ns ++ List.replicate p pad).takeWhile (· != pad) = symbols ns := by
    rw [List.takeWhile_append_of_pos hs, List.takeWhile_replicate]
    simp
  have hlen : (symbols ns).length = ns.length := by simp [symbols]
  have hd : (symbols ns ++ List.replicate p pad).drop ns.length = List.replicate p pad := by
    rw [← hlen, List.drop_left]
  have h4 : (ns.length + p) % 4 = 0 := by omega
  have hlt : ¬ns.length < 2 := by omega
  unfold lastGroup
  simp only [ht, hd, values_symbols i h, hlen, List.length_append, List.length_replicate, h4]
  cases (symbols ns).getLast? <;> simp [bind, Except.bind, pure, Except.pure, hlt, hu]

@[simp] theorem toUInt8_pad : '='.toUInt8 = pad := rfl

theorem groups_symbols (i : Nat) {ns : List Nat} {e : UInt8} {r l : List UInt8}
    (h : ∀ n ∈ ns, n < 64) (h4 : ns.length = 4) (hr : groups (i + 4) (e :: r) = .ok l) :
    groups i (symbols ns ++ e :: r) = .ok (octets ns ++ l) := by
  match ns with
  | [a, b, c, d] =>
      change (do
        let read ← values i (symbols [a, b, c, d])
        let rest ← groups (i + 4) (e :: r)
        return octets read ++ rest) = _
      rw [values_symbols i h, hr]
      rfl

inductive Group : List UInt8 → Prop
  | three (a b c : UInt8) : Group [a, b, c]
  | two (a b : UInt8) : Group [a, b]
  | one (a : UInt8) : Group [a]

def sextets : List UInt8 → List Nat
  | [a, b, c] =>
      let n := a.toNat * 65536 + b.toNat * 256 + c.toNat
      [n / 262144, n / 4096 % 64, n / 64 % 64, n % 64]
  | [a, b] =>
      let n := a.toNat * 1024 + b.toNat * 4
      [n / 4096, n / 64 % 64, n % 64]
  | [a] => [a.toNat / 4, a.toNat % 4 * 16]
  | _ => []

section Group

variable {g : List UInt8}

theorem Group.lt_of_mem_sextets (h : Group g) : ∀ n ∈ sextets g, n < 64 := by
  cases h with
  | three a b c =>
      have := a.toNat_lt
      have := b.toNat_lt
      have := c.toNat_lt
      simp only [sextets, List.mem_cons, List.not_mem_nil, or_false]
      omega
  | two a b =>
      have := a.toNat_lt
      have := b.toNat_lt
      simp only [sextets, List.mem_cons, List.not_mem_nil, or_false]
      omega
  | one a =>
      have := a.toNat_lt
      simp only [sextets, List.mem_cons, List.not_mem_nil, or_false]
      omega

theorem Group.length_sextets (h : Group g) : (sextets g).length = g.length + 1 := by
  cases h <;> rfl

theorem Group.octets_sextets (h : Group g) : octets (sextets g) = g := by
  cases h with
  | three a b c =>
      have := a.toNat_lt
      have := b.toNat_lt
      have := c.toNat_lt
      simp only [sextets, octets, List.cons.injEq, and_true, ← UInt8.toNat_inj, UInt8.toNat_ofNat']
      omega
  | two a b =>
      have := a.toNat_lt
      have := b.toNat_lt
      simp only [sextets, octets, List.cons.injEq, and_true, ← UInt8.toNat_inj, UInt8.toNat_ofNat']
      omega
  | one a =>
      have := a.toNat_lt
      simp only [sextets, octets, List.cons.injEq, and_true, ← UInt8.toNat_inj, UInt8.toNat_ofNat']
      omega

theorem Group.hasUnusedBits_sextets (h : Group g) : hasUnusedBits (sextets g) = false := by
  cases h with
  | three a b c => rfl
  | two a b =>
      simp only [sextets, hasUnusedBits, bne_eq_false_iff_eq]
      omega
  | one a =>
      simp only [sextets, hasUnusedBits, bne_eq_false_iff_eq]
      omega

theorem Group.map_encode (h : Group g) :
    (encode g).map Char.toUInt8 = symbols (sextets g) ++ List.replicate (3 - g.length) pad := by
  cases h <;> simp [encode, symbols, sextets, List.replicate]

theorem Group.lastGroup_encode (h : Group g) (i : Nat) :
    lastGroup i ((encode g).map Char.toUInt8) = .ok g := by
  have hl := h.length_sextets
  have hg : 1 ≤ g.length ∧ g.length ≤ 3 := by
    cases h <;> simp
  rw [h.map_encode, lastGroup_symbols i h.lt_of_mem_sextets (by omega) (by omega)
    h.hasUnusedBits_sextets, h.octets_sextets]

end Group

theorem map_encode_cons (a b c : UInt8) (r : List UInt8) :
    (encode (a :: b :: c :: r)).map Char.toUInt8 =
      symbols (sextets [a, b, c]) ++ (encode r).map Char.toUInt8 := by
  simp [encode, symbols, sextets]

theorem map_encode_eq_nil_iff {l : List UInt8} : (encode l).map Char.toUInt8 = [] ↔ l = [] := by
  rw [List.map_eq_nil_iff]
  constructor
  · intro h
    match l with
    | [] => rfl
    | [a] | [a, b] | a :: b :: c :: r => simp [encode] at h
  · rintro rfl
    rfl

theorem groups_encode (i : Nat) (l : List UInt8) :
    groups i ((encode l).map Char.toUInt8) = .ok l := by
  induction l using encode.induct generalizing i with
  | case1 a b c r ih =>
      have hg := Group.three a b c
      cases hr : (encode r).map Char.toUInt8 with
      | nil =>
          have hlast := hg.lastGroup_encode i
          rw [map_encode_eq_nil_iff.1 hr]
          rw [hg.map_encode] at hlast ⊢
          exact hlast
      | cons e s =>
          have hs := ih (i + 4)
          rw [hr] at hs
          rw [map_encode_cons, hr, groups_symbols i hg.lt_of_mem_sextets rfl hs, hg.octets_sextets]
          rfl
  | case2 a b => exact (Group.two a b).lastGroup_encode i
  | case3 a => exact (Group.one a).lastGroup_encode i
  | case4 => rfl

theorem length_encode (l : List UInt8) : (encode l).length % 4 = 0 := by
  induction l using encode.induct with
  | case1 a b c r ih =>
      simp only [encode, List.length_cons]
      omega
  | case2 a b => simp [encode]
  | case3 a => simp [encode]
  | case4 => rfl

theorem decode_encode (l : List UInt8) : decode ((encode l).map Char.toUInt8) = .ok l := by
  unfold decode
  cases h : ((encode l).map Char.toUInt8).getLast? with
  | none =>
      rw [List.getLast?_eq_none_iff, map_encode_eq_nil_iff] at h
      rw [h]
  | some b => simp [length_encode, groups_encode]

end Base64

end WebAppTargets
