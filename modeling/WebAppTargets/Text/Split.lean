namespace WebAppTargets.Text

/-- What stands before and after the first occurrence of `mark`. -/
def cut (mark : List Char) : List Char → Option (List Char × List Char)
  | [] => if mark.isEmpty then some ([], []) else none
  | c :: r =>
      if mark.isPrefixOf (c :: r) then some ([], (c :: r).drop mark.length)
      else (cut mark r).map fun (before, after) => (c :: before, after)

/-- What stands after the last occurrence of `mark`, or the whole text. -/
def afterLast (mark : Char) (s : List Char) : List Char :=
  (s.reverse.takeWhile (· != mark)).reverse

def dropEnd (mark : Char) (s : List Char) : List Char :=
  (s.reverse.dropWhile (· == mark)).reverse

def dropStart? (start s : List Char) : Option (List Char) :=
  if start.isPrefixOf s then some (s.drop start.length) else none

def dropFinish? (finish s : List Char) : Option (List Char) :=
  (dropStart? finish.reverse s.reverse).map List.reverse

def pieces (isMark : Char → Bool) : List Char → List (List Char)
  | [] => [[]]
  | c :: r =>
      if isMark c then [] :: pieces isMark r
      else
        match pieces isMark r with
        | [] => [[c]]
        | p :: ps => (c :: p) :: ps

def utf8Length (s : List Char) : Nat := s.foldr (fun c n => c.utf8Size + n) 0

theorem length_le_of_cut {mark s a b : List Char} (h : cut mark s = some (a, b)) :
    b.length ≤ s.length := by
  induction s generalizing a b with
  | nil =>
      unfold cut at h
      split at h <;> simp_all
  | cons c r ih =>
      unfold cut at h
      split at h
      · simp only [Option.some.injEq, Prod.mk.injEq] at h
        simp [← h.2]
      · obtain ⟨⟨x, y⟩, hxy, he⟩ := Option.map_eq_some_iff.1 h
        simp only [Prod.mk.injEq] at he
        have := ih hxy
        simp only [← he.2, List.length_cons]
        omega

theorem length_lt_of_cut {c : Char} {mark s a b : List Char}
    (h : cut (c :: mark) s = some (a, b)) : b.length < s.length := by
  cases s with
  | nil => simp [cut] at h
  | cons d r =>
      unfold cut at h
      split at h
      · simp only [Option.some.injEq, Prod.mk.injEq] at h
        simp only [← h.2, List.length_cons, List.drop_succ_cons, List.length_drop]
        omega
      · obtain ⟨⟨x, y⟩, hxy, he⟩ := Option.map_eq_some_iff.1 h
        simp only [Prod.mk.injEq] at he
        have := length_le_of_cut hxy
        simp only [← he.2, List.length_cons]
        omega

end WebAppTargets.Text
