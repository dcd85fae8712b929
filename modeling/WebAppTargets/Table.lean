namespace WebAppTargets

variable {α β : Type}

/-- The keys rise in the order of code points, so tables with the same contents are equal. -/
structure Table (α : Type) where
  entries : List (String × α) := []
  sorted : entries.Pairwise (fun a b => a.1 < b.1) := by simp

namespace Table

def put (k : String) (v : α) : List (String × α) → List (String × α)
  | [] => [(k, v)]
  | e :: r => if k < e.1 then (k, v) :: e :: r else if k = e.1 then (k, v) :: r else e :: put k v r

def find (j : String) : List (String × α) → Option α
  | [] => none
  | e :: r => if j = e.1 then some e.2 else find j r

theorem mem_put {k : String} {v : α} {l : List (String × α)} {e : String × α}
    (h : e ∈ put k v l) : e = (k, v) ∨ e ∈ l := by
  induction l with
  | nil => simpa [put] using h
  | cons a r ih =>
      unfold put at h
      split at h
      · simpa using h
      · split at h
        · rcases List.mem_cons.1 h with h | h
          · exact .inl h
          · exact .inr (List.mem_cons_of_mem _ h)
        · rcases List.mem_cons.1 h with h | h
          · exact .inr (h ▸ List.mem_cons_self)
          · exact (ih h).imp_right (List.mem_cons_of_mem _)

theorem lt_of_not_lt_of_ne {a b : String} (h : ¬a < b) (hne : ¬a = b) : b < a := by
  rcases Decidable.em (b < a) with hb | hb
  · exact hb
  · exact absurd (String.le_antisymm (String.not_lt.1 hb) (String.not_lt.1 h)) hne

theorem sorted_put (k : String) (v : α) {l : List (String × α)}
    (h : l.Pairwise (fun a b => a.1 < b.1)) : (put k v l).Pairwise (fun a b => a.1 < b.1) := by
  induction l with
  | nil => simp [put]
  | cons a r ih =>
      obtain ⟨ha, hr⟩ := List.pairwise_cons.1 h
      unfold put
      split
      · rename_i hk
        refine List.pairwise_cons.2 ⟨fun e he => ?_, h⟩
        rcases List.mem_cons.1 he with rfl | he
        · exact hk
        · exact String.lt_trans hk (ha e he)
      · split
        · rename_i _ hk
          exact List.pairwise_cons.2 ⟨fun e he => hk ▸ ha e he, hr⟩
        · rename_i hk hne
          refine List.pairwise_cons.2 ⟨fun e he => ?_, ih hr⟩
          rcases mem_put he with rfl | he
          · exact lt_of_not_lt_of_ne hk hne
          · exact ha e he

def empty : Table α := {}

instance : Inhabited (Table α) := ⟨empty⟩

instance [DecidableEq α] : DecidableEq (Table α) := fun s t =>
  decidable_of_iff (s.entries = t.entries) <| by
    cases s; cases t; simp

def insert (t : Table α) (k : String) (v : α) : Table α :=
  ⟨put k v t.entries, sorted_put k v t.sorted⟩

/-- The last value given for a key is the one kept. -/
def ofList (l : List (String × α)) : Table α :=
  l.foldl (fun t e => t.insert e.1 e.2) empty

def get? (t : Table α) (k : String) : Option α := find k t.entries

def contains (t : Table α) (k : String) : Bool := (t.get? k).isSome

def size (t : Table α) : Nat := t.entries.length

def isEmpty (t : Table α) : Bool := t.entries.isEmpty

def keys (t : Table α) : List String := t.entries.map Prod.fst

def filter (keep : String → α → Bool) (t : Table α) : Table α :=
  ⟨t.entries.filter fun e => keep e.1 e.2, t.sorted.filter _⟩

theorem find_put (k j : String) (v : α) (l : List (String × α)) :
    find j (put k v l) = if j = k then some v else find j l := by
  induction l with
  | nil => simp [put, find]
  | cons a r ih =>
      unfold put
      split
      · simp [find]
      · split
        · rename_i _ hk
          by_cases h : j = k <;> simp [find, ← hk, h]
        · rename_i _ hk
          by_cases h : j = a.1
          · have : ¬j = k := fun e => hk (e.symm.trans h)
            simp [find, h]
            exact fun e => absurd e.symm hk
          · simp [find, h, ih]

theorem find_eq_none {j : String} {l : List (String × α)} (h : ∀ e ∈ l, j < e.1) :
    find j l = none := by
  induction l with
  | nil => rfl
  | cons a r ih =>
      have : ¬j = a.1 := fun e => String.lt_irrefl j (by simpa [← e] using h a List.mem_cons_self)
      simpa [find, this] using ih fun e he => h e (List.mem_cons_of_mem _ he)

theorem eq_of_find_eq {l m : List (String × α)} (hl : l.Pairwise (fun a b => a.1 < b.1))
    (hm : m.Pairwise (fun a b => a.1 < b.1)) (h : ∀ j, find j l = find j m) : l = m := by
  induction l generalizing m with
  | nil =>
      cases m with
      | nil => rfl
      | cons b s => simpa [find] using h b.1
  | cons a r ih =>
      obtain ⟨ha, hr⟩ := List.pairwise_cons.1 hl
      cases m with
      | nil => simpa [find] using h a.1
      | cons b s =>
          obtain ⟨hb, hs⟩ := List.pairwise_cons.1 hm
          have hab : ¬a.1 < b.1 := fun hlt => by
            have hn := find_eq_none (j := a.1) (l := b :: s) fun e he => by
              rcases List.mem_cons.1 he with rfl | he
              · exact hlt
              · exact String.lt_trans hlt (hb e he)
            have := h a.1
            rw [hn] at this
            simp [find] at this
          have hba : ¬b.1 < a.1 := fun hlt => by
            have hn := find_eq_none (j := b.1) (l := a :: r) fun e he => by
              rcases List.mem_cons.1 he with rfl | he
              · exact hlt
              · exact String.lt_trans hlt (ha e he)
            have := h b.1
            rw [hn] at this
            simp [find] at this
          have hk : a.1 = b.1 := String.le_antisymm (String.not_lt.1 hba) (String.not_lt.1 hab)
          have hv : a.2 = b.2 := by simpa [find, hk] using h a.1
          have htail : r = s := ih hr hs fun j => by
            by_cases hj : j = a.1
            · rw [hj, find_eq_none ha, hk, find_eq_none hb]
            · have hj' : ¬j = b.1 := hk ▸ hj
              simpa [find, hj, hj'] using h j
          rw [htail, Prod.ext hk hv]

@[simp] theorem get?_empty (k : String) : (empty : Table α).get? k = none := rfl

@[simp] theorem get?_insert (t : Table α) (k j : String) (v : α) :
    (t.insert k v).get? j = if j = k then some v else t.get? j :=
  find_put k j v t.entries

theorem ext_get? {s t : Table α} (h : ∀ k, s.get? k = t.get? k) : s = t := by
  cases s with
  | mk l hl =>
      cases t with
      | mk m hm => simpa using eq_of_find_eq hl hm h

end Table

abbrev NameSet := Table Unit

namespace NameSet

def ofList (l : List String) : NameSet := Table.ofList (l.map (·, ()))

def toList (s : NameSet) : List String := s.keys

end NameSet

end WebAppTargets
