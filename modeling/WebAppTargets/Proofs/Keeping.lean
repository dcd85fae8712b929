import WebAppTargets.Proofs.Outcome
import WebAppTargets.Proofs.Records

namespace WebAppTargets.Json

open List (Forall₂)

def Items.ofList : List Node → Items
  | [] => .closed
  | n :: r => .item n (ofList r)

def Members.ofList : List (String × Node) → Members
  | [] => .closed
  | (k, n) :: r => .member (.string (some k)) n (ofList r)

theorem Members.ofList_inj {l m : List (String × Node)} (h : ofList l = ofList m) : l = m := by
  induction l generalizing m with
  | nil =>
      cases m with
      | nil => rfl
      | cons f m => cases h
  | cons e l ih =>
      cases m with
      | nil => cases h
      | cons f m =>
          rw [ofList, ofList, member.injEq, Node.string.injEq, Option.some.injEq] at h
          rw [Prod.ext h.1 h.2.1, ih h.2.2]

def last? {α : Type} (key : String) (l : List (String × α)) : Option α :=
  (l.filter fun e => e.1 = key).getLast?.map Prod.snd

/-- The text that was read is one of this value. -/
inductive Node.Says : Node → Value → Prop
  | null : Says .null .null
  | bool (b : Bool) : Says (.bool b) (.bool b)
  | number (n : Number) : Says (.number (some n)) (.number n)
  | string (s : String) : Says (.string (some s)) (.string s)
  | array {items : List Node} {l : List Value} (h : Forall₂ Says items l) :
      Says (.array (.ofList items)) (.ofItems l)
  | object {members : List (String × Node)} {l : List (String × Value)}
      (hrising : l.Pairwise fun e f => e.1 < f.1)
      (h : ∀ k, Option.Rel Says (last? k members) (l.lookup k)) :
      Says (.object (.ofList members)) (.ofFields l)

section Last

variable {α β : Type}

theorem get?_ofList_eq_last? (l : List (String × α)) (k : String) :
    (Table.ofList l).get? k = last? k l :=
  Table.get?_ofList l k

theorem last?_cons (e : String × α) (l : List (String × α)) (k : String) :
    last? k (e :: l) = (last? k l).or (if e.1 = k then some e.2 else none) := by
  by_cases he : e.1 = k
  · rw [last?, List.filter_cons_of_pos (by simpa using he), List.getLast?_cons, if_pos he, last?]
    cases (l.filter fun e => e.1 = k).getLast? <;> rfl
  · rw [last?, List.filter_cons_of_neg (by simpa using he), if_neg he, Option.or_none, last?]

theorem last?_forall₂ {R : α → β → Prop} {l : List (String × α)} {m : List (String × β)}
    (h : Forall₂ (fun e f => e.1 = f.1 ∧ R e.2 f.2) l m) (k : String) :
    Option.Rel R (last? k l) (last? k m) := by
  induction h with
  | nil => exact .none
  | @cons e f l m hef _ ih =>
      rw [last?_cons, last?_cons, hef.1]
      generalize last? k l = o, last? k m = p at ih ⊢
      cases ih with
      | some hR => exact .some hR
      | none =>
          split
          · exact .some hef.2
          · exact .none

end Last

section Depth

theorem Values.depth_ofList_le_iff {l : List Value} {depth : Nat} :
    (Values.ofList l).depth ≤ depth ↔ ∀ v ∈ l, v.depth ≤ depth := by
  induction l with
  | nil => simp [Values.ofList, Values.depth]
  | cons v l ih => rw [Values.ofList, Values.depth, Nat.max_le, ih, List.forall_mem_cons]

theorem Fields.depth_ofList_le_iff {l : List (String × Value)} {depth : Nat} :
    (Fields.ofList l).depth ≤ depth ↔ ∀ e ∈ l, e.2.depth ≤ depth := by
  induction l with
  | nil => simp [Fields.ofList, Fields.depth]
  | cons e l ih => rw [Fields.ofList, Fields.depth, Nat.max_le, ih, List.forall_mem_cons]

theorem Value.depth_strings (l : List String) : (Value.ofItems (l.map .string)).depth ≤ 1 := by
  refine Nat.succ_le_succ (Values.depth_ofList_le_iff.2 fun v hv => ?_)
  obtain ⟨s, -, rfl⟩ := List.mem_map.1 hv
  exact Nat.zero_le _

end Depth

theorem Node.Says.ofTable {members : List (String × Node)} {l : List (String × Value)}
    (h : Forall₂ (fun e f => e.1 = f.1 ∧ e.2.Says f.2) members l) :
    (Node.object (.ofList members)).Says (.ofTable (.ofList l)) := by
  refine .object (Table.ofList l).sorted fun k => ?_
  rw [← Table.find_eq_lookup, ← Table.get?, get?_ofList_eq_last?]
  exact last?_forall₂ h k

theorem Node.eq_of_key {n : Node} {k : String} (h : n.key = .ok k) : n = .string (some k) := by
  unfold key at h
  split at h <;> cases h
  rfl

mutual
theorem Node.says_of_value {n : Node} {depth : Nat} {v : Value} (h : n.value depth = .ok v) :
    n.Says v ∧ v.depth ≤ depth := by
  cases n with
  | null =>
      cases h
      exact ⟨.null, Nat.zero_le _⟩
  | bool b =>
      cases h
      exact ⟨.bool b, Nat.zero_le _⟩
  | number n =>
      cases n with
      | none => cases h
      | some n =>
          cases h
          exact ⟨.number n, Nat.zero_le _⟩
  | string s =>
      cases s with
      | none => cases h
      | some s =>
          cases h
          exact ⟨.string s, Nat.zero_le _⟩
  | array items =>
      cases depth with
      | zero => cases h
      | succ d =>
          obtain ⟨l, hl, h⟩ := bind_eq_ok_iff.1 h
          cases h
          obtain ⟨ns, rfl, hmeant, hdepth⟩ := items.says_of_values hl
          exact ⟨.array hmeant, Nat.succ_le_succ (Values.depth_ofList_le_iff.2 hdepth)⟩
  | object members =>
      cases depth with
      | zero => cases h
      | succ d =>
          obtain ⟨l, hl, h⟩ := bind_eq_ok_iff.1 h
          cases h
          obtain ⟨es, rfl, hmeant, hdepth⟩ := members.says_of_fields hl
          exact ⟨.ofTable hmeant, Nat.succ_le_succ (Fields.depth_ofList_le_iff.2 fun e he =>
            hdepth e (Table.mem_of_mem_ofList he))⟩
  | absent f => cases h
  | cutString kept skipped => cases h
  | cutWord kept skipped => cases h
theorem Items.says_of_values {items : Items} {depth : Nat} {l : List Value}
    (h : items.values depth = .ok l) :
    ∃ ns, items = .ofList ns ∧ Forall₂ Node.Says ns l ∧ ∀ v ∈ l, v.depth ≤ depth := by
  cases items with
  | closed =>
      cases h
      exact ⟨[], rfl, .nil, by simp⟩
  | cut f => cases h
  | item n rest =>
      obtain ⟨v, hv, h⟩ := bind_eq_ok_iff.1 h
      obtain ⟨r, hr, h⟩ := bind_eq_ok_iff.1 h
      cases h
      obtain ⟨hmeant, hdepth⟩ := n.says_of_value hv
      obtain ⟨ns, rfl, hrest, hdepths⟩ := rest.says_of_values hr
      exact ⟨n :: ns, rfl, .cons hmeant hrest, List.forall_mem_cons.2 ⟨hdepth, hdepths⟩⟩
theorem Members.says_of_fields {members : Members} {depth : Nat} {l : List (String × Value)}
    (h : members.fields depth = .ok l) :
    ∃ es, members = .ofList es ∧ Forall₂ (fun e f => e.1 = f.1 ∧ e.2.Says f.2) es l ∧
      ∀ f ∈ l, f.2.depth ≤ depth := by
  cases members with
  | closed =>
      cases h
      exact ⟨[], rfl, .nil, by simp⟩
  | cut f => cases h
  | member key n rest =>
      obtain ⟨k, hk, h⟩ := bind_eq_ok_iff.1 h
      obtain ⟨v, hv, h⟩ := bind_eq_ok_iff.1 h
      obtain ⟨r, hr, h⟩ := bind_eq_ok_iff.1 h
      cases h
      obtain ⟨hmeant, hdepth⟩ := n.says_of_value hv
      obtain ⟨es, rfl, hrest, hdepths⟩ := rest.says_of_fields hr
      obtain rfl := Node.eq_of_key hk
      exact ⟨(k, n) :: es, rfl, .cons ⟨rfl, hmeant⟩ hrest, List.forall_mem_cons.2 ⟨hdepth, hdepths⟩⟩
end

theorem Members.of_collect {f : Field} (hplain : f.aliases = []) {members : Members}
    {done found : Record} (h : members.collect [f] done = .ok found) :
    ∃ es, members = .ofList es ∧ found = (es.filter fun e => e.1 = f.name).reverse ++ done := by
  have hspells (k : String) : [f].find? (·.spells k) = if k = f.name then some f else none := by
    rw [List.find?_singleton, Field.spells, hplain]
    by_cases hk : k = f.name
    · simp [hk]
    · simp [hk, Ne.symm hk]
  -- on the members, of which those under other keys may be anything that can be skipped
  cases members with
  | closed =>
      cases h
      exact ⟨[], rfl, rfl⟩
  | cut f => cases h
  | member key n rest =>
      rw [collect] at h
      obtain ⟨k, hk, hfind⟩ := bind_eq_ok_iff.1 h
      rw [hspells] at hfind
      obtain rfl := Node.eq_of_key (mapError_eq_ok_iff.1 hk)
      by_cases hname : k = f.name
      · rw [if_pos hname] at hfind
        obtain ⟨-, hcheck⟩ := unless_eq_ok_iff.1 hfind
        obtain ⟨-, -, hrest⟩ := bind_eq_ok_iff.1 hcheck
        obtain ⟨es, rfl, rfl⟩ := of_collect hplain hrest
        refine ⟨(k, n) :: es, rfl, ?_⟩
        rw [List.filter_cons_of_pos (by simpa using hname)]
        simp [hname]
      · rw [if_neg hname] at hfind
        obtain ⟨-, -, hrest⟩ := bind_eq_ok_iff.1 hfind
        obtain ⟨es, rfl, rfl⟩ := of_collect hplain hrest
        refine ⟨(k, n) :: es, rfl, ?_⟩
        rw [List.filter_cons_of_neg (by simpa using hname)]

theorem find_filter_reverse (es : List (String × Node)) (name : String) :
    Record.find (es.filter fun e => e.1 = name).reverse name = last? name es := by
  rw [last?, ← List.head?_reverse, Record.find]
  cases hl : (es.filter fun e => e.1 = name).reverse with
  | nil => rfl
  | cons e l =>
      have he : e ∈ es.filter fun e => e.1 = name :=
        List.mem_reverse.1 (hl ▸ List.mem_cons_self)
      have hname : (name == e.1) = true := beq_iff_eq.2 (of_decide_eq_true (List.mem_filter.1 he).2).symm
      rw [List.lookup_cons, hname]
      rfl

end WebAppTargets.Json
