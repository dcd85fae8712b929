import Mathlib.Data.List.DropRight
import Mathlib.Data.List.Infix
import Mathlib.Data.List.TakeWhile
import WebAppTargets.Text.Blank
import WebAppTargets.Text.Split

namespace WebAppTargets.Text

theorem trimStart_cons {c : Char} {s : List Char} (h : isBlank c = false) :
    trimStart (c :: s) = c :: s := by
  simp [trimStart, h]

theorem trimEnd_concat {c : Char} {s : List Char} (h : isBlank c = false) :
    trimEnd (s ++ [c]) = s ++ [c] := by
  simp [trimEnd, h]

theorem trimEnd_isPrefix (s : List Char) : trimEnd s <+: s := by
  have h := List.reverse_prefix.2 (List.dropWhile_suffix (l := s.reverse) isBlank)
  rwa [List.reverse_reverse] at h

theorem trim_isInfix (s : List Char) : trim s <:+: s :=
  (trimEnd_isPrefix _).isInfix.trans (List.dropWhile_suffix isBlank).isInfix

theorem isBlank_of_head?_trimStart {s : List Char} {c : Char} (h : c ∈ (trimStart s).head?) :
    isBlank c = false := by
  have hs := List.head?_dropWhile_not isBlank s
  rwa [← trimStart, Option.mem_def.1 h] at hs

theorem isBlank_of_getLast?_trimEnd {s : List Char} {c : Char} (h : c ∈ (trimEnd s).getLast?) :
    isBlank c = false := by
  rw [trimEnd, List.getLast?_reverse] at h
  exact isBlank_of_head?_trimStart h

def IsTrimmed (s : List Char) : Prop :=
  (∀ c ∈ s.head?, isBlank c = false) ∧ ∀ c ∈ s.getLast?, isBlank c = false

theorem isTrimmed_trim (s : List Char) : IsTrimmed (trim s) := by
  refine ⟨fun c hc => ?_, fun c hc => isBlank_of_getLast?_trimEnd hc⟩
  obtain ⟨t, ht⟩ := trimEnd_isPrefix (trimStart s)
  apply isBlank_of_head?_trimStart (s := s)
  rw [← ht, ← trim, List.head?_append, Option.mem_def.1 hc]
  rfl

theorem trim_eq_self_iff {s : List Char} : trim s = s ↔ IsTrimmed s := by
  constructor
  · intro h
    exact h ▸ isTrimmed_trim s
  · rintro ⟨hhead, hlast⟩
    have hstart : trimStart s = s := by
      cases s with
      | nil => rfl
      | cons c r => exact trimStart_cons (hhead c rfl)
    rw [trim, hstart]
    rcases s.eq_nil_or_concat with rfl | ⟨r, c, rfl⟩
    · rfl
    · rw [List.concat_eq_append] at hlast ⊢
      exact trimEnd_concat (hlast c (by simp))

theorem trim_trim (s : List Char) : trim (trim s) = trim s := trim_eq_self_iff.2 (isTrimmed_trim s)

theorem trimStart_blank_append {blank : List Char} (h : ∀ c ∈ blank, isBlank c) (s : List Char) :
    trimStart (blank ++ s) = trimStart s :=
  List.dropWhile_append_of_pos h

theorem trimStart_append_cons (s t : List Char) {c : Char} (hc : isBlank c = false) :
    trimStart (s ++ c :: t) = trimStart s ++ c :: t := by
  induction s with
  | nil => exact trimStart_cons hc
  | cons d r ih =>
      cases hd : isBlank d with
      | true =>
          have hblank : ∀ e ∈ [d], isBlank e := by simpa using hd
          rw [List.cons_append, ← List.singleton_append, trimStart_blank_append hblank, ih,
            ← List.singleton_append (l := r), trimStart_blank_append hblank]
      | false => rw [List.cons_append, trimStart_cons hd, trimStart_cons hd, List.cons_append]

theorem exists_blank_append (s : List Char) :
    ∃ blank, (∀ c ∈ blank, isBlank c) ∧ s = blank ++ trimStart s :=
  ⟨s.takeWhile isBlank, fun _ hc => List.mem_takeWhile_imp hc, List.takeWhile_append_dropWhile.symm⟩

theorem trim_trimStart (s : List Char) : trim (trimStart s) = trim s := by
  have h : trimStart (trimStart s) = trimStart s := List.dropWhile_idempotent isBlank s
  rw [trim, h, trim]

theorem trim_blank_append {blank : List Char} (h : ∀ c ∈ blank, isBlank c) (s : List Char) :
    trim (blank ++ s) = trim s := by
  rw [trim, trimStart_blank_append h, trim]

theorem trimEnd_append_blank (s : List Char) {blank : List Char} (h : ∀ c ∈ blank, isBlank c) :
    trimEnd (s ++ blank) = trimEnd s := by
  rw [trimEnd, List.reverse_append, List.dropWhile_append_of_pos (by simpa using h), trimEnd]

theorem trim_append_blank (s : List Char) {blank : List Char} (h : ∀ c ∈ blank, isBlank c) :
    trim (s ++ blank) = trim s := by
  have hblank : blank.dropWhile isBlank = [] := List.dropWhile_eq_nil_iff.2 h
  rw [trim, trimStart, List.dropWhile_append, hblank, trim, trimStart]
  cases hs : s.dropWhile isBlank with
  | nil => rfl
  | cons c r => exact trimEnd_append_blank (c :: r) h

def withoutBlanks (s : List Char) : List Char := s.filter (!isBlank ·)

@[simp]
theorem withoutBlanks_append (s t : List Char) :
    withoutBlanks (s ++ t) = withoutBlanks s ++ withoutBlanks t :=
  List.filter_append ..

theorem withoutBlanks_blank {blank : List Char} (h : ∀ c ∈ blank, isBlank c) :
    withoutBlanks blank = [] := by
  simpa [withoutBlanks] using h

theorem withoutBlanks_space (s : List Char) : withoutBlanks (' ' :: s) = withoutBlanks s := rfl

theorem withoutBlanks_trimStart (s : List Char) : withoutBlanks (trimStart s) = withoutBlanks s := by
  obtain ⟨blank, hblank, hs⟩ := exists_blank_append s
  conv_rhs => rw [hs, withoutBlanks_append, withoutBlanks_blank hblank, List.nil_append]

theorem withoutBlanks_reverse (s : List Char) :
    withoutBlanks s.reverse = (withoutBlanks s).reverse :=
  List.filter_reverse ..

theorem withoutBlanks_trim (s : List Char) : withoutBlanks (trim s) = withoutBlanks s := by
  rw [trim, trimEnd, ← trimStart, withoutBlanks_reverse, withoutBlanks_trimStart,
    withoutBlanks_reverse, List.reverse_reverse, withoutBlanks_trimStart]

theorem withoutBlanks_eq_nil_iff {s : List Char} : withoutBlanks s = [] ↔ s.all isBlank := by
  simp [withoutBlanks]

theorem all_isBlank_trim (s : List Char) : (trim s).all isBlank = s.all isBlank := by
  rw [Bool.eq_iff_iff, ← withoutBlanks_eq_nil_iff, withoutBlanks_trim, withoutBlanks_eq_nil_iff]

theorem cut_append {mark s t : List Char}
    (h : ∀ a b, s = a ++ b → b ≠ [] → ¬mark <+: b ++ (mark ++ t)) :
    cut mark (s ++ (mark ++ t)) = some (s, t) := by
  induction s with
  | nil =>
      rw [List.nil_append]
      cases hm : mark ++ t with
      | nil =>
          obtain ⟨rfl, rfl⟩ := List.append_eq_nil_iff.1 hm
          rfl
      | cons c r =>
          have hp : mark.isPrefixOf (c :: r) := by simp [← hm]
          rw [cut, if_pos hp, ← hm, List.drop_left]
  | cons c r ih =>
      have hc : ¬mark <+: c :: (r ++ (mark ++ t)) := h [] (c :: r) rfl (List.cons_ne_nil c r)
      have hr : cut mark (r ++ (mark ++ t)) = some (r, t) := by
        apply ih
        intro a b hab
        exact h (c :: a) b (by rw [hab, List.cons_append])
      rw [List.cons_append, cut, if_neg (by simpa using hc), hr]
      rfl

theorem cut_char_append {c : Char} {s : List Char} (t : List Char) (h : c ∉ s) :
    cut [c] (s ++ c :: t) = some (s, t) := by
  apply cut_append
  rintro a b rfl hb ⟨u, hu⟩
  obtain ⟨d, r, rfl⟩ := List.exists_cons_of_ne_nil hb
  obtain rfl : c = d := (List.cons.inj hu).1
  exact h (List.mem_append_right a List.mem_cons_self)

theorem eq_append_of_cut {mark s a b : List Char} (h : cut mark s = some (a, b)) :
    s = a ++ (mark ++ b) := by
  induction s generalizing a with
  | nil =>
      unfold cut at h
      split at h
      · rename_i hm
        cases h
        rw [List.isEmpty_iff.1 hm]
        rfl
      · cases h
  | cons c r ih =>
      unfold cut at h
      split at h
      · rename_i hm
        cases h
        exact (List.prefix_iff_eq_append.1 (List.isPrefixOf_iff_prefix.1 hm)).symm
      · obtain ⟨⟨d, e⟩, hr, he⟩ := Option.map_eq_some_iff.1 h
        cases he
        rw [List.cons_append, ← ih hr]

theorem not_infix_of_cut {mark s a b : List Char} (hm : mark ≠ [])
    (h : cut mark s = some (a, b)) : ¬mark <:+: a := by
  induction s generalizing a with
  | nil =>
      unfold cut at h
      rw [if_neg (by simpa using hm)] at h
      cases h
  | cons c r ih =>
      have hs := eq_append_of_cut h
      unfold cut at h
      split at h
      · cases h
        simpa using hm
      · rename_i hc
        obtain ⟨⟨d, e⟩, hr, he⟩ := Option.map_eq_some_iff.1 h
        cases he
        intro hinfix
        rcases List.infix_cons_iff.1 hinfix with hp | hi
        · apply hc
          rw [hs, List.isPrefixOf_iff_prefix]
          exact hp.trans (List.prefix_append _ _)
        · exact ih hr hi

theorem not_mem_of_cut {c : Char} {s a b : List Char} (h : cut [c] s = some (a, b)) : c ∉ a := by
  intro hc
  obtain ⟨u, v, rfl⟩ := List.append_of_mem hc
  exact not_infix_of_cut (List.cons_ne_nil c []) h ⟨u, v, by simp⟩

theorem not_mem_of_cut_eq_none {c : Char} {s : List Char} (h : cut [c] s = none) : c ∉ s := by
  intro hc
  obtain ⟨u, v, rfl, hu⟩ := List.eq_append_cons_of_mem hc
  rw [cut_char_append v hu] at h
  cases h

theorem cut_char_eq_none {c : Char} {s : List Char} (h : c ∉ s) : cut [c] s = none := by
  induction s with
  | nil => rfl
  | cons d r ih =>
      obtain ⟨hd, hr⟩ := List.ne_and_not_mem_of_not_mem_cons h
      rw [cut, if_neg (by simpa using hd), ih hr]
      rfl

theorem afterLast_append {c : Char} {s t : List Char} (h : c ∉ t) :
    afterLast c (s ++ c :: t) = t := by
  have ht : ∀ d ∈ t.reverse, (d != c) = true := by
    intro d hd
    exact bne_iff_ne.2 fun hc => h (hc ▸ List.mem_reverse.1 hd)
  rw [afterLast, List.reverse_append, List.reverse_cons, List.append_assoc,
    List.takeWhile_append_of_pos ht]
  simp

theorem afterLast_eq (c : Char) (s : List Char) : afterLast c s = (s.splitOn c).getLastD [] := by
  by_cases h : c ∈ s
  · obtain ⟨t, front, hreverse, ht⟩ := List.eq_append_cons_of_mem (List.mem_reverse.2 h)
    have hs : s = front.reverse ++ c :: t.reverse := by
      rw [← List.reverse_reverse s, hreverse]
      simp
    have hmark : c ∉ t.reverse := fun hc => ht (List.mem_reverse.1 hc)
    rw [hs, afterLast_append hmark, List.splitOn_append_cons_self, List.splitOn_eq_singleton hmark]
    simp
  · have hmark : ∀ d ∈ s.reverse, (d != c) = true := by
      intro d hd
      exact bne_iff_ne.2 fun hc => h (hc ▸ List.mem_reverse.1 hd)
    rw [afterLast, List.splitOn_eq_singleton h, List.takeWhile_eq_self_iff.2 hmark, List.reverse_reverse]
    rfl

theorem dropStart?_append (s t : List Char) : dropStart? s (s ++ t) = some t := by
  simp [dropStart?]

theorem dropFinish?_append (s t : List Char) : dropFinish? t (s ++ t) = some s := by
  rw [dropFinish?, List.reverse_append, dropStart?_append, Option.map_some, List.reverse_reverse]

theorem eq_append_of_dropStart? {start s r : List Char} (h : dropStart? start s = some r) :
    s = start ++ r := by
  rw [dropStart?] at h
  split at h
  · rename_i hprefix
    obtain ⟨t, rfl⟩ := List.isPrefixOf_iff_prefix.1 hprefix
    rw [List.drop_left] at h
    rw [Option.some.inj h]
  · cases h

theorem eq_append_of_dropFinish? {finish s r : List Char} (h : dropFinish? finish s = some r) :
    s = r ++ finish := by
  obtain ⟨t, ht, rfl⟩ := Option.map_eq_some_iff.1 h
  rw [← List.reverse_reverse s, eq_append_of_dropStart? ht, List.reverse_append, List.reverse_reverse]

end WebAppTargets.Text
