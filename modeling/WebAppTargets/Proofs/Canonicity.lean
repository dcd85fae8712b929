import WebAppTargets.Proofs.Base64
import WebAppTargets.Proofs.Outcome

namespace WebAppTargets

namespace Base64

variable {i : Nat} {text l : List UInt8} {ns : List Nat}

theorem symbol_of_bits? {b : UInt8} {n : Nat} (h : bits? b = some n) :
    n < 64 ∧ (symbol n).toUInt8 = b := by
  have key : ∀ k < 256, ∀ n ∈ bits? (UInt8.ofNat k), n < 64 ∧ (symbol n).toUInt8 = UInt8.ofNat k := by
    decide +kernel
  have hb := key b.toNat b.toNat_lt n
  rw [UInt8.ofNat_toNat] at hb
  exact hb h

theorem eq_symbols_of_values (h : values i text = .ok ns) :
    text = symbols ns ∧ ∀ n ∈ ns, n < 64 := by
  induction text generalizing i ns with
  | nil =>
      cases h
      exact ⟨rfl, by simp⟩
  | cons b r ih =>
      rw [values] at h
      cases hb : bits? b with
      | none =>
          rw [hb] at h
          cases h
      | some n =>
          rw [hb] at h
          cases hr : values (i + 1) r with
          | error f =>
              rw [hr] at h
              cases h
          | ok ns =>
              rw [hr] at h
              cases h
              obtain ⟨hn, hsymbol⟩ := symbol_of_bits? hb
              obtain ⟨hns, hlt⟩ := ih hr
              refine ⟨?_, List.forall_mem_cons.2 ⟨hn, hlt⟩⟩
              rw [hns, ← hsymbol]
              rfl

theorem group_octets (hlt : ∀ n ∈ ns, n < 64) (hmin : 2 ≤ ns.length) (hmax : ns.length ≤ 4)
    (hunused : hasUnusedBits ns = false) :
    Group (octets ns) ∧ sextets (octets ns) = ns ∧ (octets ns).length + 1 = ns.length := by
  match ns with
  | [a, b] =>
      simp only [List.forall_mem_cons, hasUnusedBits, bne_eq_false_iff_eq] at hlt hunused
      refine ⟨.one _, ?_, rfl⟩
      simp only [octets, sextets, UInt8.toNat_ofNat', List.cons.injEq, and_true]
      omega
  | [a, b, c] =>
      simp only [List.forall_mem_cons, hasUnusedBits, bne_eq_false_iff_eq] at hlt hunused
      refine ⟨.two _ _, ?_, rfl⟩
      simp only [octets, sextets, UInt8.toNat_ofNat', List.cons.injEq, and_true]
      omega
  | [a, b, c, d] =>
      simp only [List.forall_mem_cons] at hlt
      refine ⟨.three _ _ _, ?_, rfl⟩
      simp only [octets, sextets, UInt8.toNat_ofNat', List.cons.injEq, and_true]
      omega

theorem eq_padded_of_lastGroup (h : lastGroup i text = .ok l) :
    ∃ ns p, text = symbols ns ++ List.replicate p pad ∧ (∀ n ∈ ns, n < 64) ∧
      (text ≠ [] → 2 ≤ ns.length) ∧ text.length % 4 = 0 ∧ hasUnusedBits ns = false ∧ l = octets ns := by
  have htext := List.prefix_iff_eq_append.1 (List.takeWhile_prefix (l := text) (· != pad))
  unfold lastGroup at h
  obtain ⟨ns, hns, h⟩ := bind_eq_ok_iff.1 h
  obtain ⟨hpad, h⟩ := unless_eq_ok_iff.1 h
  obtain ⟨hshort, h⟩ := unless_eq_ok_iff.1 h
  obtain ⟨hfull, h⟩ := unless_eq_ok_iff.1 h
  obtain ⟨hsymbols, hlt⟩ := eq_symbols_of_values hns
  generalize text.drop (text.takeWhile (· != pad)).length = padding at hpad htext
  rw [hsymbols] at htext hshort h
  have hlength : (symbols ns).length = ns.length := by rw [symbols, List.length_map]
  have hpadding : padding = List.replicate padding.length pad := by
    apply List.eq_replicate_of_mem
    intro b hb
    by_contra hne
    apply hpad
    simp only [Bool.and_eq_true, Bool.or_eq_true, List.any_eq_true]
    exact ⟨by simpa using List.ne_nil_of_mem hb, .inr ⟨b, hb, bne_iff_ne.2 hne⟩⟩
  have hunused : hasUnusedBits ns = false ∧ l = octets ns := by
    cases hlast : (symbols ns).getLast? with
    | none =>
        rw [hlast] at h
        rw [List.getLast?_eq_none_iff, symbols, List.map_eq_nil_iff] at hlast
        cases h
        exact ⟨by rw [hlast]; rfl, rfl⟩
    | some b =>
        rw [hlast] at h
        obtain ⟨hunused, h⟩ := unless_eq_ok_iff.1 h
        exact ⟨Bool.eq_false_iff.2 hunused, (Except.ok.inj h).symm⟩
  refine ⟨ns, padding.length, ?_, hlt, fun hne => ?_, by simpa using hfull, hunused⟩
  · rw [← hpadding, htext]
  · rw [hlength, Bool.and_eq_true, not_and, decide_eq_true_iff, Nat.not_lt] at hshort
    exact hshort (by simpa using hne)

theorem eq_map_encode_of_lastGroup (hlength : text.length ≤ 4) (h : lastGroup i text = .ok l) :
    text = (encode l).map Char.toUInt8 := by
  obtain ⟨ns, p, htext, hlt, hmin, hfull, hunused, rfl⟩ := eq_padded_of_lastGroup h
  have hsum : text.length = ns.length + p := by simp [htext, symbols]
  by_cases hne : text = []
  · have hns : ns = [] := List.eq_nil_of_length_eq_zero (by rw [hne] at hsum; simp at hsum; omega)
    rw [hne, hns]
    rfl
  · have hmin := hmin hne
    obtain ⟨hgroup, hsextets, hoctets⟩ := group_octets hlt hmin (by omega) hunused
    have hp : p = 3 - (octets ns).length := by omega
    rw [hgroup.map_encode, hsextets, ← hp, htext]

theorem eq_map_encode_of_groups (h : groups i text = .ok l) : text = (encode l).map Char.toUInt8 := by
  -- on the groups; each but the last is whole
  induction i, text using groups.induct generalizing l with
  | case1 i a b c d e r ih =>
      obtain ⟨ns, hns, h⟩ := bind_eq_ok_iff.1 h
      obtain ⟨rest, hrest, h⟩ := bind_eq_ok_iff.1 h
      cases h
      obtain ⟨hsymbols, hlt⟩ := eq_symbols_of_values hns
      have hfour : ns.length = 4 := by simpa [symbols] using (congrArg List.length hsymbols).symm
      obtain ⟨n₁, n₂, n₃, n₄, rfl⟩ := List.length_eq_four.1 hfour
      obtain ⟨-, hsextets, -⟩ := group_octets hlt (by omega) (by omega) rfl
      rw [octets, List.cons_append, List.cons_append, List.cons_append, List.nil_append,
        map_encode_cons, ← ih hrest, ← octets, hsextets, ← hsymbols]
      rfl
  | case2 i text hshort =>
      have hlength : text.length ≤ 4 := by
        rcases text with _ | ⟨a, _ | ⟨b, _ | ⟨c, _ | ⟨d, _ | ⟨e, r⟩⟩⟩⟩⟩
        case cons.cons.cons.cons.cons => exact absurd rfl (hshort a b c d e r)
        all_goals simp
      have hlast : lastGroup i text = .ok l := by
        rwa [groups] at h
        exact hshort
      exact eq_map_encode_of_lastGroup hlength hlast

/-- A text is read if and only if it is the canonical one of what it is read as. -/
theorem decode_eq_ok_iff : decode text = .ok l ↔ text = (encode l).map Char.toUInt8 := by
  constructor
  · intro h
    unfold decode at h
    split at h
    · split at h
      · cases h
      · exact eq_map_encode_of_groups h
    · rename_i hlast
      cases h
      exact List.getLast?_eq_none_iff.1 hlast
  · rintro rfl
    exact decode_encode l

end Base64

namespace Utf8

variable {octets : List UInt8} {s : String}

theorem decode_eq_ok_iff : decode octets = .ok s ↔ octets = encode s := by
  constructor
  · intro h
    unfold decode at h
    split at h
    · rename_i t ht
      cases h
      rw [String.fromUTF8?] at ht
      split at ht
      · cases ht
        rfl
      · cases ht
    · cases h
  · rintro rfl
    exact decode_encode s

theorem encode_injective {s t : String} (h : encode s = encode t) : s = t := by
  rw [← decode_eq_ok_iff, decode_encode] at h
  exact Except.ok.inj h

end Utf8

namespace Base64

theorem map_encode_eq (l : List UInt8) :
    (encode l).map Char.toUInt8 = Utf8.encode (String.ofList (encode l)) :=
  (Utf8.encode_ofList fun _ hc => (plain_of_mem_encode hc).1).symm

theorem decode_characters_eq_ok_iff {code : List Char} {l : List UInt8} :
    decode (Utf8.encode (String.ofList code)) = .ok l ↔ code = encode l := by
  rw [decode_eq_ok_iff, map_encode_eq]
  constructor
  · intro h
    exact String.ofList_injective (Utf8.encode_injective h)
  · rintro rfl
    rfl

end Base64

end WebAppTargets
