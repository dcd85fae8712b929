import Mathlib.Data.List.DropRight
import WebAppTargets.Proofs.Keeping
import WebAppTargets.Text.Blank

namespace WebAppTargets.Json

namespace Grammar

open Reader

def IsSpace (s : List Char) : Prop := ∀ c ∈ s, c ∈ [' ', '\t', '\n', '\r']

section Literal

def escapes : List (Char × Char) :=
  [('"', '"'), ('\\', '\\'), ('/', '/'), ('b', Char.ofNat 8), ('f', Char.ofNat 12), ('n', '\n'),
   ('r', '\r'), ('t', '\t')]

inductive IsPiece : List Char → Piece → Prop
  | plain {c : Char} (hmark : c ≠ '"') (hslash : c ≠ '\\') (hcontrol : 0x20 ≤ c.toNat) :
      IsPiece [c] (.char c)
  | escaped {e c : Char} (h : (e, c) ∈ escapes) : IsPiece ['\\', e] (.char c)
  | unit {a b c d : Char} {u : Nat} (h : Text.numeral? 16 [a, b, c, d] = some u) :
      IsPiece ['\\', 'u', a, b, c, d] (.unit u)

inductive ArePieces : List Char → List Piece → Prop
  | nil : ArePieces [] []
  | cons {s t : List Char} {p : Piece} {ps : List Piece} (hs : IsPiece s p) (ht : ArePieces t ps) :
      ArePieces (s ++ t) (p :: ps)

/-- The characters that pieces stand for. The halves of a surrogate pair stand for one together, and
for none apart. -/
inductive Spell : List Piece → List Char → Prop
  | nil : Spell [] []
  | char (c : Char) {ps : List Piece} {t : List Char} (h : Spell ps t) : Spell (.char c :: ps) (c :: t)
  | unit {u : Nat} (hu : u < 0xD800 ∨ 0xE000 ≤ u) {ps : List Piece} {t : List Char} (h : Spell ps t) :
      Spell (.unit u :: ps) (Char.ofNat u :: t)
  | pair {u v : Nat} (hu : 0xD800 ≤ u ∧ u < 0xDC00) (hv : 0xDC00 ≤ v ∧ v < 0xE000) {ps : List Piece}
      {t : List Char} (h : Spell ps t) :
      Spell (.unit u :: .unit v :: ps) (Char.ofNat (0x10000 + (u - 0xD800) * 0x400 + (v - 0xDC00)) :: t)

inductive IsLiteral : List Char → Node → Prop
  | text {s t : List Char} {ps : List Piece} (hs : ArePieces s ps) (ht : Spell ps t) :
      IsLiteral ('"' :: (s ++ ['"'])) (.string (some (String.ofList t)))
  | broken {s : List Char} {ps : List Piece} (hs : ArePieces s ps) (ht : ∀ t, ¬Spell ps t) :
      IsLiteral ('"' :: (s ++ ['"'])) (.string none)

end Literal

section Number

structure AreDigits (s : List Char) (ds : List Nat) : Prop where
  written : s = ds.map Nat.digitChar
  given : ds ≠ []
  small : ∀ d ∈ ds, d < 10

inductive IsFraction : List Char → Option (List Nat) → Prop
  | absent : IsFraction [] none
  | given {s : List Char} {ds : List Nat} (h : AreDigits s ds) : IsFraction ('.' :: s) (some ds)

inductive IsExponent : List Char → Option (Bool × List Nat) → Prop
  | absent : IsExponent [] none
  | given {e : Char} {sign s : List Char} {minus : Bool} {ds : List Nat} (he : e ∈ ['e', 'E'])
      (hsign : (sign, minus) ∈ [([], false), (['+'], false), (['-'], true)]) (h : AreDigits s ds) :
      IsExponent (e :: (sign ++ s)) (some (minus, ds))

/-- The whole part starts with a zero only if there is nothing more of it. -/
inductive IsNumeral : List Char → Numeral → Prop
  | mk {sign w f e : List Char} {negative : Bool} {whole : List Nat} {fraction : Option (List Nat)}
      {exponent : Option (Bool × List Nat)} (hsign : (sign, negative) ∈ [([], false), (['-'], true)])
      (hw : AreDigits w whole) (hzero : whole.head? = some 0 → whole = [0])
      (hf : IsFraction f fraction) (he : IsExponent e exponent) :
      IsNumeral (sign ++ (w ++ (f ++ e))) ⟨negative, whole, fraction, exponent⟩

end Number

mutual
/-- A value without space around it. -/
inductive IsValue : List Char → Node → Prop
  | null : IsValue "null".toList .null
  | true : IsValue "true".toList (.bool true)
  | false : IsValue "false".toList (.bool false)
  | number {s : List Char} {x : Numeral} (h : IsNumeral s x) : IsValue s (.number x.value?)
  | string {s : List Char} {n : Node} (h : IsLiteral s n) : IsValue s n
  | emptyArray {s : List Char} (h : IsSpace s) : IsValue ('[' :: (s ++ [']'])) (.array .closed)
  | array {s : List Char} {items : Items} (h : AreElements s items) :
      IsValue ('[' :: (s ++ [']'])) (.array items)
  | emptyObject {s : List Char} (h : IsSpace s) :
      IsValue ('\x7b' :: (s ++ ['\x7d'])) (.object .closed)
  | object {s : List Char} {members : Members} (h : AreMembers s members) :
      IsValue ('\x7b' :: (s ++ ['\x7d'])) (.object members)
inductive IsElement : List Char → Node → Prop
  | mk {pre s post : List Char} {n : Node} (hpre : IsSpace pre) (h : IsValue s n)
      (hpost : IsSpace post) : IsElement (pre ++ (s ++ post)) n
inductive AreElements : List Char → Items → Prop
  | last {s : List Char} {n : Node} (h : IsElement s n) : AreElements s (.item n .closed)
  | more {s t : List Char} {n : Node} {items : Items} (h : IsElement s n) (ht : AreElements t items) :
      AreElements (s ++ ',' :: t) (.item n items)
inductive AreMembers : List Char → Members → Prop
  | last {pre k post s : List Char} {key n : Node} (hpre : IsSpace pre) (hk : IsLiteral k key)
      (hpost : IsSpace post) (h : IsElement s n) :
      AreMembers (pre ++ (k ++ (post ++ ':' :: s))) (.member key n .closed)
  | more {pre k post s t : List Char} {key n : Node} {members : Members} (hpre : IsSpace pre)
      (hk : IsLiteral k key) (hpost : IsSpace post) (h : IsElement s n) (ht : AreMembers t members) :
      AreMembers (pre ++ (k ++ (post ++ ':' :: (s ++ ',' :: t)))) (.member key n members)
end

def IsText (text : String) (n : Node) : Prop := IsElement text.toList n

section Space

variable {pre : List Char} {s : Letters}

theorem isSpace_iff {c : Char} : isSpace (some c) ↔ c ∈ [' ', '\t', '\n', '\r'] := by
  simp [isSpace, or_assoc]

theorem skipSpace_append (h : IsSpace pre) (s : Letters) : skipSpace (pre.map some ++ s) = skipSpace s := by
  refine List.dropWhile_append_of_pos fun l hl => ?_
  obtain ⟨c, hc, rfl⟩ := List.mem_map.1 hl
  exact isSpace_iff.2 (h c hc)

theorem skipSpace_cons {c : Char} (h : ¬isSpace (some c)) (s : Letters) :
    skipSpace (some c :: s) = some c :: s :=
  List.dropWhile_cons_of_neg h

theorem skipSpace_mark {c : Char} (h : IsSpace pre) (hc : ¬isSpace (some c)) (s : Letters) :
    skipSpace (pre.map some ++ some c :: s) = some c :: s :=
  (skipSpace_append h _).trans (skipSpace_cons hc s)

theorem skipSpace_skipSpace (s : Letters) : skipSpace (skipSpace s) = skipSpace s :=
  List.dropWhile_idempotent _ _

theorem value_skipSpace (fuel : Nat) (s : Letters) : value fuel (skipSpace s) = value fuel s := by
  cases fuel with
  | zero => rfl
  | succ fuel => rw [value, value, skipSpace_skipSpace]

theorem items_skipSpace (fuel : Nat) (s : Letters) : items fuel (skipSpace s) = items fuel s := by
  cases fuel with
  | zero => rfl
  | succ fuel => rw [items, items, value_skipSpace]

theorem members_skipSpace (fuel : Nat) (s : Letters) : members fuel (skipSpace s) = members fuel s := by
  cases fuel with
  | zero => rfl
  | succ fuel => rw [members, members, skipSpace_skipSpace]

end Space

section Literal

variable {s t : List Char} {ps : List Piece}

theorem IsPiece.pieces_append {p : Piece} (h : IsPiece s p) (rest : Letters) :
    pieces (s.map some ++ rest) = (p :: (pieces rest).1, (pieces rest).2) := by
  cases h with
  | @plain c hmark hslash hcontrol =>
      change pieces (some c :: rest) = _
      rw [pieces.eq_def]
      simp only [if_neg hmark, if_neg hslash, if_neg (Nat.not_lt.2 hcontrol)]
  | escaped h =>
      simp only [escapes, List.mem_cons, Prod.mk.injEq, List.not_mem_nil, or_false] at h
      rcases h with ⟨rfl, rfl⟩ | ⟨rfl, rfl⟩ | ⟨rfl, rfl⟩ | ⟨rfl, rfl⟩ | ⟨rfl, rfl⟩ | ⟨rfl, rfl⟩ |
        ⟨rfl, rfl⟩ | ⟨rfl, rfl⟩ <;> rfl
  | @unit a b c d u h =>
      have hunit : hexUnit? (some a) (some b) (some c) (some d) = some u := h
      change pieces (some '\\' :: some 'u' :: some a :: some b :: some c :: some d :: rest) = _
      rw [pieces.eq_def]
      simp only [hunit]
      rfl

theorem ArePieces.pieces_append (h : ArePieces s ps) (rest : Letters) :
    pieces (s.map some ++ some '"' :: rest) = (ps, .ok rest) := by
  induction h with
  | nil =>
      change pieces (some '"' :: rest) = _
      rw [pieces.eq_def]
      rfl
  | cons hs _ ih => rw [List.map_append, List.append_assoc, hs.pieces_append, ih]

theorem Spell.text_eq (h : Spell ps t) : text none ps = .ok t := by
  induction h with
  | nil => rfl
  | char c _ ih => rw [text, ih]; rfl
  | @unit u hu _ _ _ ih =>
      have hlow : isLow u = false := by simp [isLow]; omega
      have hhigh : isHigh u = false := by simp [isHigh]; omega
      rw [text.eq_def]
      simp only [hlow, hhigh, ih]
      rfl
  | @pair u v hu hv _ _ _ ih =>
      have hlow : isLow u = false := by simp [isLow]; omega
      have hhigh : isHigh u = true := by simp [isHigh]; omega
      have hv : isLow v = true := by simp [isLow]; omega
      rw [text.eq_def]
      simp only [hlow, hhigh, hv, ih]
      rfl

theorem spell_of_text (h : text none ps = .ok t) : Spell ps t := by
  fun_induction text none ps generalizing t with
  | case2 =>
      cases h
      exact .nil
  | case3 c ps ih =>
      obtain ⟨t, ht, rfl⟩ := map_eq_ok_iff.1 h
      exact .char c (ih ht)
  | case4 ps ih =>
      obtain ⟨_, -, h⟩ := bind_eq_ok_iff.1 h
      cases h
  | case7 u hlow hhigh v ps hv ih =>
      obtain ⟨t, ht, rfl⟩ := map_eq_ok_iff.1 h
      simp only [isHigh, isLow, Bool.and_eq_true, decide_eq_true_eq] at hhigh hv
      exact .pair hhigh hv (ih ht)
  | case10 u ps hlow hhigh ih =>
      obtain ⟨t, ht, rfl⟩ := map_eq_ok_iff.1 h
      simp only [isHigh, isLow, Bool.and_eq_true, decide_eq_true_eq] at hhigh hlow
      exact .unit (by omega) (ih ht)
  | _ => cases h

theorem IsLiteral.string_eq {n : Node} (h : IsLiteral s n) : ∃ body : List Char,
    s = '"' :: body ∧ ∀ rest, Reader.string (body.map some ++ rest) = (n, some rest) := by
  cases h with
  | text hs ht =>
      refine ⟨_, rfl, fun rest => ?_⟩
      rw [List.map_append, List.append_assoc]
      simp only [Reader.string, List.map_singleton, List.singleton_append, hs.pieces_append, ht.text_eq]
  | @broken s ps hs ht =>
      refine ⟨_, rfl, fun rest => ?_⟩
      rw [List.map_append, List.append_assoc]
      simp only [Reader.string, List.map_singleton, List.singleton_append, hs.pieces_append]
      cases htext : Reader.text none ps with
      | error f => rfl
      | ok t => exact absurd (spell_of_text htext) (ht t)

end Literal

section Number

def NoDigit (rest : Letters) : Prop := ∀ c, rest.head? = some (some c) → ¬c.isDigit

def NoNumber (rest : Letters) : Prop := NoDigit rest ∧ ∀ c ∈ ['.', 'e', 'E'], rest.head? ≠ some (some c)

variable {s : List Char} {rest : Letters}

theorem noDigit_cons {c : Char} (h : ¬c.isDigit) (rest : Letters) : NoDigit (some c :: rest) := by
  intro d hd
  rwa [← Option.some.inj (Option.some.inj hd)]

theorem noNumber_cons {c : Char} (hdigit : ¬c.isDigit) (hmark : c ∉ ['.', 'e', 'E']) (rest : Letters) :
    NoNumber (some c :: rest) :=
  ⟨noDigit_cons hdigit rest, fun _ hd h => hmark (Option.some.inj (Option.some.inj h) ▸ hd)⟩

theorem digits_of_noDigit (h : NoDigit rest) : digits rest = ([], rest) := by
  cases rest with
  | nil => rfl
  | cons l rest =>
      cases l with
      | none => rfl
      | some c => rw [digits, if_neg (h c rfl)]

theorem digitChar_digit : ∀ d < 10, (Nat.digitChar d).isDigit ∧ (Nat.digitChar d).toNat - 48 = d := by
  decide

theorem AreDigits.digits_append {ds : List Nat} (h : AreDigits s ds) (hrest : NoDigit rest) :
    digits (s.map some ++ rest) = (ds, rest) := by
  obtain ⟨rfl, -, hsmall⟩ := h
  induction ds with
  | nil => exact digits_of_noDigit hrest
  | cons d ds ih =>
      obtain ⟨hd, hds⟩ := List.forall_mem_cons.1 hsmall
      obtain ⟨hdigit, hvalue⟩ := digitChar_digit d hd
      simp only [List.map_cons, List.cons_append, digits, if_pos hdigit, ih hds, hvalue]

theorem AreDigits.exists_cons {ds : List Nat} (h : AreDigits s ds) :
    ∃ d r t, d < 10 ∧ ds = d :: r ∧ s = Nat.digitChar d :: t := by
  obtain ⟨rfl, hgiven, hsmall⟩ := h
  obtain ⟨d, r, rfl⟩ := List.exists_cons_of_ne_nil hgiven
  exact ⟨d, r, _, hsmall d List.mem_cons_self, rfl, rfl⟩

theorem IsExponent.noDigit {e : Option (Bool × List Nat)} (h : IsExponent s e) (hrest : NoDigit rest) :
    NoDigit (s.map some ++ rest) := by
  cases h with
  | absent => exact hrest
  | given he _ _ =>
      have hletter : ∀ c ∈ ['e', 'E'], ¬c.isDigit := by simp
      exact noDigit_cons (hletter _ he) _

theorem IsExponent.exponent_eq {e : Option (Bool × List Nat)} (h : IsExponent s e)
    (hrest : NoNumber rest) (negative : Bool) (whole : List Nat) (fraction : Option (List Nat)) :
    exponent negative whole fraction (s.map some ++ rest) =
      (.number (Numeral.value? ⟨negative, whole, fraction, e⟩), some rest) := by
  cases h with
  | absent =>
      change exponent negative whole fraction rest = _
      unfold exponent
      split
      · rename_i c r
        rw [if_neg]
        have hc := hrest.2 c
        simp at hc ⊢
        tauto
      · rfl
  | @given e sign s minus ds he hsign h =>
      have he : e = 'e' ∨ e = 'E' := by simpa using he
      have hunsigned : ∀ d < 10, Nat.digitChar d ≠ '-' ∧ Nat.digitChar d ≠ '+' := by decide
      have hdigits := h.digits_append hrest.1
      obtain ⟨d, r, t, hd, rfl, rfl⟩ := h.exists_cons
      obtain ⟨hminus, hplus⟩ := hunsigned d hd
      rw [List.map_cons, List.cons_append] at hdigits
      simp only [List.mem_cons, Prod.mk.injEq, List.not_mem_nil, or_false] at hsign
      rcases hsign with ⟨rfl, rfl⟩ | ⟨rfl, rfl⟩ | ⟨rfl, rfl⟩
      · simp [exponent, he, hminus, hplus, hdigits]
      · simp [exponent, he, hdigits]
      · simp [exponent, he, hdigits]

theorem IsFraction.fraction_eq {f e : List Char} {fraction : Option (List Nat)}
    {exponent : Option (Bool × List Nat)} (hf : IsFraction f fraction) (he : IsExponent e exponent)
    (hrest : NoNumber rest) (negative : Bool) (whole : List Nat) :
    Reader.fraction negative whole (f.map some ++ (e.map some ++ rest)) =
      (.number (Numeral.value? ⟨negative, whole, fraction, exponent⟩), some rest) := by
  cases hf with
  | absent =>
      rw [← he.exponent_eq hrest]
      cases he with
      | absent =>
          change Reader.fraction negative whole rest = Reader.exponent negative whole none rest
          unfold Reader.fraction
          split
          · exact absurd rfl (hrest.2 '.' (by simp))
          · rfl
      | given he _ _ =>
          have hpoint : ∀ c ∈ ['e', 'E'], c ≠ '.' := by simp
          simp [Reader.fraction, hpoint _ he]
  | given h =>
      have hdigits := h.digits_append (he.noDigit hrest.1)
      obtain ⟨d, r, t, -, rfl, rfl⟩ := h.exists_cons
      rw [List.map_cons, List.cons_append, Reader.fraction, hdigits]
      exact he.exponent_eq hrest _ _ _

theorem IsFraction.noDigit {f : List Char} {fraction : Option (List Nat)} (h : IsFraction f fraction)
    (hrest : NoDigit rest) : NoDigit (f.map some ++ rest) := by
  cases h with
  | absent => exact hrest
  | given _ => exact noDigit_cons (by decide) _

theorem number_eq {w f e : List Char} {whole : List Nat} {fraction : Option (List Nat)}
    {exponent : Option (Bool × List Nat)} (hw : AreDigits w whole)
    (hzero : whole.head? = some 0 → whole = [0]) (hf : IsFraction f fraction)
    (he : IsExponent e exponent) (hrest : NoNumber rest) (negative : Bool) :
    number negative ((w ++ (f ++ e)).map some ++ rest) =
      (.number (Numeral.value? ⟨negative, whole, fraction, exponent⟩), some rest) := by
  have hdigits := hw.digits_append (hf.noDigit (he.noDigit hrest.1))
  have hfraction := hf.fraction_eq he hrest negative whole
  simp only [List.map_append, List.append_assoc]
  unfold number
  rw [hdigits]
  obtain ⟨d, r, -, -, rfl, -⟩ := hw.exists_cons
  split
  · rename_i heq
    cases heq
  · -- more digits after a zero: the grammar has no such number
    rename_i heq
    cases heq
    cases hzero rfl
  · rename_i heq
    cases heq
    exact hfraction

end Number

section Value

variable {fuel : Nat} {s : Letters} {rest : Letters}

theorem word_append (n : Node) (w : List Char) (rest : Letters) :
    word n w (w.map some ++ rest) = (n, some rest) := by
  induction w with
  | nil => rfl
  | cons c w ih => rw [List.map_cons, List.cons_append, word, if_pos rfl, ih]

theorem items_nil (fuel : Nat) : (items fuel []).2 = none := by
  cases fuel with
  | zero => rfl
  | succ fuel => cases fuel <;> rfl

theorem items_bracket (fuel : Nat) (s : Letters) : (items fuel (some ']' :: s)).2 = none := by
  cases fuel with
  | zero => rfl
  | succ fuel => cases fuel <;> rfl

theorem members_nil (fuel : Nat) : (members fuel []).2 = none := by
  cases fuel <;> rfl

theorem members_brace (fuel : Nat) (s : Letters) : (members fuel (some '\x7d' :: s)).2 = none := by
  cases fuel <;> rfl

theorem value_emptyArray (h : skipSpace s = some ']' :: rest) :
    value (fuel + 1) (some '[' :: s) = (.array .closed, some rest) := by
  have hspace : skipSpace (some '[' :: s) = some '[' :: s := rfl
  simp only [value, hspace, Char.reduceEq, ↓reduceIte, h]

theorem value_emptyObject (h : skipSpace s = some '\x7d' :: rest) :
    value (fuel + 1) (some '\x7b' :: s) = (.object .closed, some rest) := by
  have hspace : skipSpace (some '\x7b' :: s) = some '\x7b' :: s := rfl
  simp only [value, hspace, Char.reduceEq, ↓reduceIte, h]

theorem value_array {is : Items} (h : items fuel s = (is, some rest)) :
    value (fuel + 1) (some '[' :: s) = (.array is, some rest) := by
  rw [← items_skipSpace] at h
  have hspace : skipSpace (some '[' :: s) = some '[' :: s := rfl
  simp only [value, hspace, Char.reduceEq, ↓reduceIte]
  split
  · rename_i hs
    have hnone := items_nil fuel
    rw [← hs, h] at hnone
    cases hnone
  · rename_i r hs
    have hnone := items_bracket fuel r
    rw [← hs, h] at hnone
    cases hnone
  · rw [h]

theorem value_object {ms : Members} (h : members fuel s = (ms, some rest)) :
    value (fuel + 1) (some '\x7b' :: s) = (.object ms, some rest) := by
  rw [← members_skipSpace] at h
  have hspace : skipSpace (some '\x7b' :: s) = some '\x7b' :: s := rfl
  simp only [value, hspace, Char.reduceEq, ↓reduceIte]
  split
  · rename_i hs
    have hnone := members_nil fuel
    rw [← hs, h] at hnone
    cases hnone
  · rename_i r hs
    have hnone := members_brace fuel r
    rw [← hs, h] at hnone
    cases hnone
  · rw [h]

variable {n : Node} {r t : Letters}

theorem items_last (hv : value fuel s = (n, some r)) (hr : skipSpace r = some ']' :: rest) :
    items (fuel + 1) s = (.item n .closed, some rest) := by
  rw [items, hv]
  simp only [hr]

theorem items_more {is : Items} (hv : value fuel s = (n, some r)) (hr : skipSpace r = some ',' :: t)
    (ht : items fuel t = (is, some rest)) : items (fuel + 1) s = (.item n is, some rest) := by
  rw [items, hv]
  simp only [hr, ht]

variable {k : Letters} {key : Node}

theorem members_last {u : Letters} (hs : skipSpace s = some '"' :: k)
    (hk : Reader.string k = (key, some u)) (hu : skipSpace u = some ':' :: t)
    (hv : value fuel t = (n, some r)) (hr : skipSpace r = some '\x7d' :: rest) :
    members (fuel + 1) s = (.member key n .closed, some rest) := by
  rw [members]
  simp only [hs, hk, hu, hv, hr]

theorem members_more {ms : Members} {u v : Letters} (hs : skipSpace s = some '"' :: k)
    (hk : Reader.string k = (key, some u)) (hu : skipSpace u = some ':' :: t)
    (hv : value fuel t = (n, some r)) (hr : skipSpace r = some ',' :: v)
    (hms : members fuel v = (ms, some rest)) :
    members (fuel + 1) s = (.member key n ms, some rest) := by
  rw [members]
  simp only [hs, hk, hu, hv, hr, hms]

end Value

/-- What follows goes on neither with a number nor with space. -/
def Stops (rest : Letters) : Prop := NoNumber rest ∧ skipSpace rest = rest

theorem Stops.nil : Stops [] := ⟨⟨nofun, nofun⟩, rfl⟩

theorem stops_of_mark {c : Char} (hc : c ∈ [',', ']', '\x7d']) (rest : Letters) :
    Stops (some c :: rest) := by
  have hmark : ∀ c ∈ [',', ']', '\x7d'],
      ¬c.isDigit ∧ c ∉ ['.', 'e', 'E'] ∧ ¬isSpace (some c) := by simp [isSpace]
  obtain ⟨hdigit, hnumber, hspace⟩ := hmark c hc
  exact ⟨noNumber_cons hdigit hnumber rest, skipSpace_cons hspace rest⟩

theorem Stops.comma (rest : Letters) : Stops (some ',' :: rest) := stops_of_mark (by decide) rest

theorem Stops.bracket (rest : Letters) : Stops (some ']' :: rest) := stops_of_mark (by decide) rest

theorem Stops.brace (rest : Letters) : Stops (some '\x7d' :: rest) := stops_of_mark (by decide) rest

theorem noNumber_of_space {s : List Char} {rest : Letters} (h : IsSpace s) (hrest : NoNumber rest) :
    NoNumber (s.map some ++ rest) := by
  cases s with
  | nil => exact hrest
  | cons c s =>
      have hspace : ∀ c ∈ [' ', '\t', '\n', '\r'], ¬c.isDigit ∧ c ∉ ['.', 'e', 'E'] := by simp
      obtain ⟨hdigit, hnumber⟩ := hspace c (h c List.mem_cons_self)
      exact noNumber_cons hdigit hnumber _

theorem IsNumeral.value_eq {s : List Char} {x : Numeral} (h : IsNumeral s x) {rest : Letters}
    (hrest : NoNumber rest) (fuel : Nat) :
    value (fuel + 1) (s.map some ++ rest) = (.number x.value?, some rest) := by
  obtain ⟨hsign, hw, hzero, hf, he⟩ := h
  simp only [List.mem_cons, Prod.mk.injEq, List.not_mem_nil, or_false] at hsign
  rcases hsign with ⟨rfl, rfl⟩ | ⟨rfl, rfl⟩
  · have hnumber := number_eq hw hzero hf he hrest false
    have hmark : ∀ d < 10, (Nat.digitChar d).isDigit ∧ ¬isSpace (some (Nat.digitChar d)) ∧
        Nat.digitChar d ∉ ['"', '[', '\x7b', 'n', 't', 'f', '-'] := by decide
    obtain ⟨d, r, t, hd, -, rfl⟩ := hw.exists_cons
    obtain ⟨hdigit, hspace, hmarks⟩ := hmark d hd
    simp only [List.mem_cons, List.not_mem_nil, or_false, not_or] at hmarks
    simp only [List.nil_append, List.cons_append, List.map_cons] at hnumber ⊢
    simp only [value, skipSpace_cons hspace, hmarks, hdigit, hnumber, if_true, if_false]
  · have hnumber := number_eq hw hzero hf he hrest true
    have hspace : ¬isSpace (some '-') := by decide
    simp only [List.cons_append, List.nil_append, List.map_cons, value, skipSpace_cons hspace, Char.reduceEq,
      ↓reduceIte, hnumber]

theorem IsValue.length_pos {s : List Char} {n : Node} (h : IsValue s n) : 0 < s.length := by
  cases h with
  | number h =>
      obtain ⟨-, hw, -, -, -⟩ := h
      obtain ⟨d, r, t, -, -, rfl⟩ := hw.exists_cons
      simp only [List.length_append, List.length_cons]
      omega
  | string h => cases h <;> exact Nat.succ_pos _
  | _ => exact Nat.succ_pos _

theorem map_enclosed (a b : Char) (s : List Char) (rest : Letters) :
    (a :: (s ++ [b])).map some ++ rest = some a :: (s.map some ++ some b :: rest) := by
  simp

theorem IsLiteral.skipSpace_eq {pre s : List Char} {key : Node} (h : IsLiteral s key)
    (hpre : IsSpace pre) : ∃ k : List Char,
      (∀ rest, skipSpace (pre.map some ++ (s.map some ++ rest)) = some '"' :: (k.map some ++ rest)) ∧
      ∀ rest, Reader.string (k.map some ++ rest) = (key, some rest) := by
  obtain ⟨k, rfl, hk⟩ := h.string_eq
  refine ⟨k, fun rest => ?_, hk⟩
  rw [skipSpace_append hpre, List.map_cons, List.cons_append, skipSpace_cons (by decide)]

mutual
theorem IsValue.value_eq {s : List Char} {n : Node} (h : IsValue s n) {fuel : Nat}
    (hfuel : 2 * s.length ≤ fuel) {rest : Letters} (hrest : NoNumber rest) :
    value fuel (s.map some ++ rest) = (n, some rest) := by
  -- on the fuel: a list takes one step of it for each item besides the item's own, and a mark with it
  have hpos := h.length_pos
  obtain ⟨fuel, rfl⟩ : ∃ f, fuel = f + 1 := Nat.exists_eq_add_of_le' (by omega)
  cases h with
  | null => exact word_append .null "ull".toList rest
  | true => exact word_append (.bool true) "rue".toList rest
  | false => exact word_append (.bool false) "alse".toList rest
  | number h => exact h.value_eq hrest fuel
  | string h =>
      obtain ⟨body, rfl, hbody⟩ := h.string_eq
      exact hbody rest
  | emptyArray h =>
      rw [map_enclosed]
      exact value_emptyArray (skipSpace_mark h (by decide) rest)
  | array h =>
      simp only [List.length_cons, List.length_append] at hfuel
      rw [map_enclosed]
      exact value_array (h.items_eq (by omega) rest)
  | emptyObject h =>
      rw [map_enclosed]
      exact value_emptyObject (skipSpace_mark h (by decide) rest)
  | object h =>
      simp only [List.length_cons, List.length_append] at hfuel
      rw [map_enclosed]
      exact value_object (h.members_eq (by omega) rest)
termination_by 2 * fuel
theorem IsElement.value_eq {s : List Char} {n : Node} (h : IsElement s n) {fuel : Nat}
    (hfuel : 2 * s.length ≤ fuel) {rest : Letters} (hrest : Stops rest) :
    ∃ r, value fuel (s.map some ++ rest) = (n, some r) ∧ skipSpace r = rest := by
  cases h with
  | @mk pre s post _ hpre h hpost =>
      simp only [List.length_append] at hfuel
      have hfuel' : 2 * s.length ≤ fuel := by omega
      have hvalue := h.value_eq hfuel' (noNumber_of_space hpost hrest.1)
      refine ⟨post.map some ++ rest, ?_, ?_⟩
      · simp only [List.map_append, List.append_assoc]
        rw [← value_skipSpace, skipSpace_append hpre, value_skipSpace, hvalue]
      · rw [skipSpace_append hpost, hrest.2]
termination_by 2 * fuel + 1
theorem AreElements.items_eq {s : List Char} {is : Items} (h : AreElements s is) {fuel : Nat}
    (hfuel : 2 * s.length < fuel) (rest : Letters) :
    items fuel (s.map some ++ some ']' :: rest) = (is, some rest) := by
  obtain ⟨fuel, rfl⟩ : ∃ f, fuel = f + 1 := Nat.exists_eq_add_of_le' (Nat.zero_lt_of_lt hfuel)
  cases h with
  | last h =>
      obtain ⟨r, hv, hr⟩ := h.value_eq (Nat.le_of_lt_succ hfuel) (.bracket rest)
      exact items_last hv hr
  | @more s t _ _ h ht =>
      simp only [List.length_append, List.length_cons] at hfuel
      simp only [List.map_append, List.map_cons, List.append_assoc, List.cons_append]
      have hfuel' : 2 * s.length ≤ fuel := by omega
      obtain ⟨r, hv, hr⟩ := h.value_eq hfuel' (.comma _)
      exact items_more hv hr (ht.items_eq (by omega) rest)
termination_by 2 * fuel
theorem AreMembers.members_eq {s : List Char} {ms : Members} (h : AreMembers s ms) {fuel : Nat}
    (hfuel : 2 * s.length < fuel) (rest : Letters) :
    members fuel (s.map some ++ some '\x7d' :: rest) = (ms, some rest) := by
  obtain ⟨fuel, rfl⟩ : ∃ f, fuel = f + 1 := Nat.exists_eq_add_of_le' (Nat.zero_lt_of_lt hfuel)
  cases h with
  | @last pre k post s _ _ hpre hk hpost h =>
      simp only [List.length_append, List.length_cons] at hfuel
      simp only [List.map_append, List.map_cons, List.append_assoc, List.cons_append]
      have hfuel' : 2 * s.length ≤ fuel := by omega
      obtain ⟨r, hv, hr⟩ := h.value_eq hfuel' (.brace rest)
      obtain ⟨k, hs, hk⟩ := hk.skipSpace_eq hpre
      exact members_last (hs _) (hk _) (skipSpace_mark hpost (by decide) _) hv hr
  | @more pre k post s t _ _ _ hpre hk hpost h ht =>
      simp only [List.length_append, List.length_cons] at hfuel
      simp only [List.map_append, List.map_cons, List.append_assoc, List.cons_append]
      have hfuel' : 2 * s.length ≤ fuel := by omega
      obtain ⟨r, hv, hr⟩ := h.value_eq hfuel' (.comma _)
      obtain ⟨k, hs, hk⟩ := hk.skipSpace_eq hpre
      exact members_more (hs _) (hk _) (skipSpace_mark hpost (by decide) _) hv hr
        (ht.members_eq (by omega) rest)
termination_by 2 * fuel
end

theorem IsLiteral.skipKey_eq {s : List Char} {key : Node} (h : IsLiteral s key) : key.skipKey = .ok () := by
  cases h <;> rfl

mutual
theorem IsValue.skip_eq {s : List Char} {n : Node} (h : IsValue s n) : n.skip = .ok () := by
  cases h with
  | string h => cases h <;> rfl
  | array h => exact h.skip_eq
  | object h => exact h.skip_eq
  | _ => rfl
termination_by 4 * s.length
theorem IsElement.skip_eq {s : List Char} {n : Node} (h : IsElement s n) : n.skip = .ok () := by
  cases h with
  | mk _ h _ => exact h.skip_eq
termination_by 4 * s.length + 1
theorem AreElements.skip_eq {s : List Char} {is : Items} (h : AreElements s is) : is.skip = .ok () := by
  cases h with
  | last h =>
      rw [Items.skip, h.skip_eq]
      rfl
  | more h ht =>
      rw [Items.skip, h.skip_eq]
      exact ht.skip_eq
termination_by 4 * s.length + 2
theorem AreMembers.skip_eq {s : List Char} {ms : Members} (h : AreMembers s ms) : ms.skip = .ok () := by
  cases h with
  | last _ hk _ h =>
      rw [Members.skip, hk.skipKey_eq, h.skip_eq]
      rfl
  | more _ hk _ h ht =>
      rw [Members.skip, hk.skipKey_eq, h.skip_eq]
      exact ht.skip_eq
termination_by 4 * s.length + 2
decreasing_by all_goals subst_vars; simp only [List.length_append, List.length_cons]; omega
end

theorem IsText.read_eq {text : String} {n : Node} (h : IsText text n) :
    read (lettersOf text) = (n, false) := by
  have hfuel : 2 * text.toList.length ≤ 2 * (lettersOf text).length + 2 := by
    rw [lettersOf, List.length_map]
    omega
  obtain ⟨r, hv, hr⟩ := IsElement.value_eq h hfuel .nil
  rw [List.append_nil] at hv
  rw [Json.read, lettersOf] at *
  simp only [hv, Option.getD_some, hr]
  rfl

theorem IsText.not_blank {text : String} {items : Items} (h : IsText text (.array items)) :
    Text.isBlankText text = false := by
  have hopen {s : List Char} (h : IsValue s (.array items)) : '[' ∈ s := by
    cases h with
    | string h => cases h
    | _ => exact List.mem_cons_self
  have hmem : '[' ∈ text.toList := by
    unfold IsText at h
    generalize text.toList = s at h ⊢
    cases h with
    | mk _ h _ => simp [hopen h]
  rw [Text.isBlankText, List.all_eq_false]
  exact ⟨'[', hmem, by decide⟩

end Grammar

end WebAppTargets.Json
