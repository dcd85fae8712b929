namespace WebAppTargets.Text

def isBlank (c : Char) : Bool :=
  let n := c.toNat
  (0x9 ≤ n && n ≤ 0xD) || n == 0x20 || n == 0x85 || n == 0xA0 || n == 0x1680 ||
    (0x2000 ≤ n && n ≤ 0x200A) || n == 0x2028 || n == 0x2029 || n == 0x202F || n == 0x205F ||
    n == 0x3000

variable (s : List Char)

def trimStart : List Char := s.dropWhile isBlank

def trimEnd : List Char := (s.reverse.dropWhile isBlank).reverse

def trim : List Char := trimEnd (trimStart s)

def stripped (t : String) : String := String.ofList (trim t.toList)

def isBlankText (t : String) : Bool := t.toList.all isBlank

theorem toList_stripped (t : String) : (stripped t).toList = trim t.toList := by
  simp [stripped]

theorem length_trimStart_le : (trimStart s).length ≤ s.length := by
  induction s with
  | nil => simp [trimStart]
  | cons c r ih =>
      by_cases h : isBlank c
      · simp only [trimStart, List.dropWhile_cons, h, if_true, List.length_cons] at ih ⊢
        omega
      · simp [trimStart, h]

theorem trimStart_eq_nil_iff : trimStart s = [] ↔ s.all isBlank = true := by
  induction s with
  | nil => simp [trimStart]
  | cons c r ih =>
      rw [trimStart, List.dropWhile_cons, List.all_cons, Bool.and_eq_true]
      split
      · rename_i h
        exact ih.trans (iff_and_self.2 fun _ => h)
      · rename_i h
        exact ⟨fun e => absurd e (List.cons_ne_nil c r), fun e => absurd e.1 h⟩

end WebAppTargets.Text
