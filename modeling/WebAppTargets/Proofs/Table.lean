import Mathlib.Tactic.ByContra
import Mathlib.Tactic.Tauto
import WebAppTargets.Table

namespace WebAppTargets

variable {α β : Type}

namespace Table

theorem find_filter {l : List (String × α)} (hl : l.Pairwise (fun a b => a.1 < b.1))
    (keep : String → α → Bool) (k : String) :
    find k (l.filter fun e => keep e.1 e.2) = (find k l).filter (keep k) := by
  induction l with
  | nil => rfl
  | cons a r ih =>
      obtain ⟨ha, hr⟩ := List.pairwise_cons.1 hl
      by_cases hk : k = a.1
      · subst hk
        cases hv : keep a.1 a.2 with
        | true => simp [find, Option.filter, hv]
        | false =>
            have hn : find a.1 (r.filter fun e => keep e.1 e.2) = none :=
              find_eq_none fun e he => ha e (List.mem_filter.1 he).1
            simp [find, Option.filter, hv, hn]
      · cases hv : keep a.1 a.2 <;> simp [find, hv, hk, ih hr]

theorem find_eq_lookup (k : String) (l : List (String × α)) : find k l = l.lookup k := by
  induction l with
  | nil => rfl
  | cons e r ih =>
      by_cases h : k = e.1
      · have hk : (k == e.1) = true := beq_iff_eq.2 h
        rw [find, if_pos h, List.lookup_cons, hk]
      · have hk : (k == e.1) = false := beq_false_of_ne h
        rw [find, if_neg h, ih, List.lookup_cons, hk]

theorem get?_filter (t : Table α) (keep : String → α → Bool) (k : String) :
    (t.filter keep).get? k = (t.get? k).filter (keep k) :=
  find_filter t.sorted keep k

theorem find_eq_some_iff {l : List (String × α)} (hl : l.Pairwise (fun a b => a.1 < b.1))
    (k : String) (v : α) : find k l = some v ↔ (k, v) ∈ l := by
  induction l with
  | nil => simp [find]
  | cons a r ih =>
      obtain ⟨ha, hr⟩ := List.pairwise_cons.1 hl
      by_cases hk : k = a.1
      · have hn : (k, v) ∉ r := by
          intro hm
          exact String.lt_irrefl k (hk ▸ ha (k, v) hm)
        simp [find, hk, hk ▸ hn, Prod.ext_iff, eq_comm]
      · simp [find, hk, ih hr, Prod.ext_iff]

theorem get?_eq_some_iff (t : Table α) (k : String) (v : α) :
    t.get? k = some v ↔ (k, v) ∈ t.entries :=
  find_eq_some_iff t.sorted k v

theorem contains_iff (t : Table α) (k : String) : t.contains k ↔ ∃ v, t.get? k = some v :=
  Option.isSome_iff_exists

@[simp] theorem not_contains_empty (k : String) : (empty : Table α).contains k = false := rfl

@[simp] theorem contains_insert (t : Table α) (k j : String) (v : α) :
    (t.insert k v).contains j ↔ j = k ∨ t.contains j := by
  by_cases hj : j = k <;> simp [contains, hj]

theorem isEmpty_iff (t : Table α) : t.isEmpty ↔ ∀ k, ¬t.contains k := by
  constructor
  · intro h k hk
    obtain ⟨v, hv⟩ := (t.contains_iff k).1 hk
    rw [get?_eq_some_iff, List.isEmpty_iff.1 h] at hv
    exact List.not_mem_nil hv
  · intro h
    refine List.isEmpty_iff.2 (List.eq_nil_iff_forall_not_mem.2 ?_)
    rintro ⟨k, v⟩ hm
    exact h k ((t.contains_iff k).2 ⟨v, (t.get?_eq_some_iff k v).2 hm⟩)

section Fold

variable (key : β → String) (value : β → α)

theorem get?_foldl_insert (l : List β) (t : Table α) (k : String) :
    (l.foldl (fun t e => t.insert (key e) (value e)) t).get? k =
      ((l.filter fun e => key e = k).getLast?.map value <|> t.get? k) := by
  induction l generalizing t with
  | nil => simp
  | cons a r ih =>
      rw [List.foldl_cons, ih, get?_insert]
      by_cases ha : key a = k
      · cases hl : (r.filter fun e => key e = k).getLast? with
        | none => simp [ha, List.getLast?_cons, hl]
        | some e => simp [ha, List.getLast?_cons, hl]
      · simp [ha, Ne.symm ha]

theorem contains_foldl_insert (l : List β) (t : Table α) (k : String) :
    (l.foldl (fun t e => t.insert (key e) (value e)) t).contains k ↔
      k ∈ l.map key ∨ t.contains k := by
  induction l generalizing t with
  | nil => simp
  | cons a r ih =>
      rw [List.foldl_cons, ih, contains_insert, List.map_cons, List.mem_cons]
      tauto

theorem get?_ofList (l : List (String × α)) (k : String) :
    (ofList l).get? k = (l.filter fun e => e.1 = k).getLast?.map Prod.snd := by
  rw [ofList, get?_foldl_insert Prod.fst Prod.snd, get?_empty]
  simp

theorem mem_of_get?_ofList {l : List (String × α)} {k : String} {a : α}
    (h : (ofList l).get? k = some a) : (k, a) ∈ l := by
  rw [get?_ofList] at h
  obtain ⟨d, hd, rfl⟩ := Option.map_eq_some_iff.1 h
  obtain ⟨hmem, hkey⟩ := List.mem_filter.1 (List.mem_of_getLast? hd)
  rwa [← of_decide_eq_true hkey]

theorem mem_of_mem_ofList {l : List (String × α)} {e : String × α} (h : e ∈ (ofList l).entries) :
    e ∈ l :=
  mem_of_get?_ofList (((ofList l).get?_eq_some_iff e.1 e.2).2 h)

theorem get?_ofList_of_nodup {l : List (String × α)} (h : (l.map Prod.fst).Nodup) (k : String) :
    (ofList l).get? k = l.lookup k := by
  rw [get?_ofList]
  induction l with
  | nil => rfl
  | cons a r ih =>
      obtain ⟨j, v⟩ := a
      obtain ⟨hj, hr⟩ := List.nodup_cons.1 h
      by_cases hk : j = k
      · subst hk
        have hn : (r.filter fun e => e.1 = j) = [] := by
          apply List.filter_eq_nil_iff.2
          intro e he hej
          exact hj (List.mem_map.2 ⟨e, he, of_decide_eq_true hej⟩)
        simp [hn]
      · have hkj : (k == j) = false := beq_false_of_ne (Ne.symm hk)
        rw [List.filter_cons_of_neg (by simpa using hk), ih hr, List.lookup_cons, hkj]

end Fold

theorem ofList_of_perm {t : Table α} {l : List (String × α)} (h : l.Perm t.entries) : ofList l = t := by
  refine ext_get? fun k => Option.ext fun a => ⟨fun ha => ?_, fun ha => ?_⟩
  · exact (t.get?_eq_some_iff k a).2 (h.mem_iff.1 (mem_of_get?_ofList ha))
  · have hmem : (k, a) ∈ l := h.mem_iff.2 ((t.get?_eq_some_iff k a).1 ha)
    have hkey : (ofList l).contains k :=
      (contains_foldl_insert Prod.fst Prod.snd l empty k).2 (.inl (List.mem_map_of_mem hmem))
    obtain ⟨b, hb⟩ := ((ofList l).contains_iff k).1 hkey
    have hb' := (t.get?_eq_some_iff k b).2 (h.mem_iff.1 (mem_of_get?_ofList hb))
    rwa [← ha, hb']

theorem ofList_entries (t : Table α) : ofList t.entries = t := ofList_of_perm (.refl _)

end Table

namespace NameSet

theorem ext_contains {s t : NameSet} (h : ∀ n, s.contains n ↔ t.contains n) : s = t := by
  apply Table.ext_get?
  intro n
  have hn : (s.get? n).isSome = (t.get? n).isSome := Bool.eq_iff_iff.2 (h n)
  cases hs : s.get? n <;> cases ht : t.get? n <;> simp_all

theorem contains_ofList (l : List String) (n : String) : (ofList l).contains n ↔ n ∈ l := by
  rw [ofList, Table.ofList, Table.contains_foldl_insert Prod.fst Prod.snd]
  simp

theorem mem_toList (s : NameSet) (n : String) : n ∈ s.toList ↔ s.contains n := by
  simp [toList, Table.keys, Table.contains_iff, Table.get?_eq_some_iff]

theorem ofList_toList (s : NameSet) : ofList s.toList = s :=
  ext_contains fun n => by rw [contains_ofList, mem_toList]

theorem contains_filter (s : NameSet) (keep : String → Bool) (n : String) :
    (s.filter fun k _ => keep k).contains n ↔ s.contains n ∧ keep n := by
  rw [Table.contains, Table.get?_filter, Table.contains]
  cases s.get? n <;> simp [Option.filter]

end NameSet

end WebAppTargets
