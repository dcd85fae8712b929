import WebAppTargets.Discovery.Context
import WebAppTargets.Proofs.Outcome
import WebAppTargets.Proofs.Records

namespace WebAppTargets

open List (Forall₂)

namespace Text

set_option maxRecDepth 4096 in
theorem runs_above : ∀ run ∈ capitalRuns, (90 : Int) < run.1 + run.2.2.2 := by decide

theorem isUpper_iff (c : Char) : c.isUpper ↔ 65 ≤ c.toNat ∧ c.toNat ≤ 90 := by
  delta Char.isUpper
  exact decide_eq_true_iff

theorem not_isUpper_toLower (c : Char) : ¬c.toLower.isUpper := by
  rw [isUpper_iff]
  unfold Char.toLower
  split
  · rename_i hupper
    have hlo : 65 ≤ c.toNat := hupper.1
    have hhi : c.toNat ≤ 90 := hupper.2
    have hsum : (c.val + 32).toNat = c.toNat + 32 := by
      rw [UInt32.toNat_add]
      exact Nat.mod_eq_of_lt (by change c.toNat + 32 < 2 ^ 32; omega)
    change ¬(65 ≤ (c.val + 32).toNat ∧ (c.val + 32).toNat ≤ 90)
    omega
  · rename_i hupper
    exact hupper

theorem toNat_ofNat (n : Nat) : (Char.ofNat n).toNat = n ∨ (Char.ofNat n).toNat = 0 := by
  delta Char.ofNat
  by_cases h : n.isValidChar
  · rw [dif_pos h]
    exact .inl rfl
  · rw [dif_neg h]
    exact .inr rfl

theorem not_isUpper_of_mem_lowerChar {c d : Char} (h : d ∈ lowerChar c) : ¬d.isUpper := by
  rw [lowerChar] at h
  split at h
  · rw [List.mem_singleton.1 h]
    exact not_isUpper_toLower c
  · split at h
    · simp only [List.mem_cons, List.not_mem_nil, or_false] at h
      rcases h with rfl | rfl <;> decide
    · split at h
      · -- the first letter of a run becomes one above the capitals, and so do the later ones
        rename_i lo hi step shift hrun
        have habove : (90 : Int) < lo + shift := runs_above _ (List.mem_of_find?_eq_some hrun)
        have hc := List.find?_some hrun
        simp only [Bool.and_eq_true, decide_eq_true_eq] at hc
        rw [List.mem_singleton.1 h, isUpper_iff]
        have := toNat_ofNat ((c.toNat : Int) + shift).toNat
        omega
      · rw [List.mem_singleton.1 h, isUpper_iff]
        omega

theorem not_isUpper_of_mem_lowercase {s : String} {c : Char} (h : c ∈ (lowercase s).toList) :
    ¬c.isUpper := by
  rw [lowercase, String.toList_ofList, List.mem_flatMap] at h
  obtain ⟨d, -, hd⟩ := h
  exact not_isUpper_of_mem_lowerChar hd

end Text

theorem getLast?_eq_some_of_forall {α : Type} {l : List α} {a : α} (h : a ∈ l)
    (hall : ∀ b ∈ l, b = a) : l.getLast? = some a := by
  cases hl : l.getLast? with
  | none =>
      rw [List.getLast?_eq_none_iff.1 hl] at h
      cases h
  | some b => rw [hall b (List.mem_of_getLast? hl)]

namespace Table

variable {α β : Type} {l : List (String × α)} {e : String × α}

theorem get?_ofList_of_forall (he : e ∈ l) (h : ∀ d ∈ l, d.1 = e.1 → d = e) :
    (ofList l).get? e.1 = some e.2 := by
  rw [get?_ofList, getLast?_eq_some_of_forall (a := e)]
  · rfl
  · exact List.mem_filter.2 ⟨he, decide_eq_true rfl⟩
  · intro d hd
    obtain ⟨hmem, hkey⟩ := List.mem_filter.1 hd
    exact h d hmem (of_decide_eq_true hkey)

def relabel (key : String → String) (value : α → β) (t : Table α) : List (String × β) :=
  t.entries.map fun e => (key e.1, value e.2)

variable {key : String → String} {value : α → β}

theorem mem_relabel_ofList {d : String × β} (h : d ∈ relabel key value (ofList l)) :
    ∃ e ∈ l, d = (key e.1, value e.2) := by
  obtain ⟨e, he, rfl⟩ := List.mem_map.1 h
  exact ⟨e, mem_of_mem_ofList he, rfl⟩

theorem get?_relabel_ofList {k : String} (h : (l.filter fun d => key d.1 = k) = [e]) :
    (ofList (relabel key value (ofList l))).get? k = some (value e.2) := by
  have hmem (d : String × α) : d ∈ l ∧ key d.1 = k ↔ d = e := by
    rw [← List.mem_singleton (a := d) (b := e), ← h, List.mem_filter, decide_eq_true_iff]
  obtain ⟨he, rfl⟩ := (hmem e).2 rfl
  -- it survives twice, in the table of the list and in the one with the new keys
  have hentry : e ∈ (ofList l).entries := by
    apply ((ofList l).get?_eq_some_iff e.1 e.2).1
    exact get?_ofList_of_forall he fun d hd hkey => (hmem d).1 ⟨hd, congrArg key hkey⟩
  refine get?_ofList_of_forall (e := (key e.1, value e.2)) (List.mem_map_of_mem hentry) ?_
  intro d hd hkey
  obtain ⟨f, hf, rfl⟩ := mem_relabel_ofList hd
  rw [(hmem f).1 ⟨hf, hkey⟩]

theorem get?_relabel_ofList_eq_none {k : String} (h : (l.filter fun d => key d.1 = k) = []) :
    (ofList (relabel key value (ofList l))).get? k = none := by
  refine Option.eq_none_iff_forall_ne_some.2 fun a ha => ?_
  obtain ⟨e, he, hk⟩ := mem_relabel_ofList (mem_of_get?_ofList ha)
  exact List.filter_eq_nil_iff.1 h e he (decide_eq_true (Prod.ext_iff.1 hk).1.symm)

end Table

namespace Json

section Spelling

/-- Of the spellings of the field the lowered name is the only one without capitals. -/
structure Field.IsCaseless (f : Field) : Prop where
  lowered : Text.lowercase f.name ∈ f.name :: f.aliases
  others : ∀ s ∈ f.name :: f.aliases, s ≠ Text.lowercase f.name → s.toList.any Char.isUpper

instance (f : Field) : Decidable f.IsCaseless :=
  decidable_of_iff (Text.lowercase f.name ∈ f.name :: f.aliases ∧
    ∀ s ∈ f.name :: f.aliases, s ≠ Text.lowercase f.name → s.toList.any Char.isUpper)
    ⟨fun h => ⟨h.1, h.2⟩, fun h => ⟨h.lowered, h.others⟩⟩

theorem Field.IsCaseless.spells_lowercase {f : Field} (h : f.IsCaseless) (k : String) :
    f.spells (Text.lowercase k) = (Text.lowercase f.name == Text.lowercase k) := by
  have hspells : f.spells (Text.lowercase k) ↔ Text.lowercase k ∈ f.name :: f.aliases := by
    simp only [Field.spells, Bool.or_eq_true, beq_iff_eq, List.contains_iff_mem, List.mem_cons]
    rw [eq_comm]
  rw [Bool.eq_iff_iff, hspells, beq_iff_eq]
  constructor
  · intro hk
    by_contra hne
    obtain ⟨c, hc, hupper⟩ := List.any_eq_true.1 (h.others _ hk (Ne.symm hne))
    exact Text.not_isUpper_of_mem_lowercase hc hupper
  · intro hk
    rw [← hk]
    exact h.lowered

structure Caseless (fields : List Field) : Prop where
  caseless : ∀ f ∈ fields, f.IsCaseless
  nodup : (fields.map fun f => Text.lowercase f.name).Nodup

theorem Caseless.spelledAt {fields : List Field} (h : Caseless fields) {keys : List String}
    (hkeys : ∀ k ∈ keys, ∃ j, k = Text.lowercase j) : SpelledAt Text.lowercase fields keys where
  spells f hf k hk := by
    obtain ⟨j, rfl⟩ := hkeys k hk
    exact (h.caseless f hf).spells_lowercase j
  injective f hf g hg hname := congrArg Field.name (List.inj_on_of_nodup_map h.nodup hf hg hname)

end Spelling

namespace Value

open Context

variable {l m : List (String × Value)} {u v w : Value} {depth : Nat}

theorem fields_ofList_inv (h : (Fields.ofList l).node.fields depth = .ok m) :
    Forall₂ (fun e f => f.1 = e.1 ∧ e.2.KeptAs depth f.2) l m := by
  induction l generalizing m with
  | nil =>
      cases h
      exact .nil
  | cons e l ih =>
      obtain ⟨_, ⟨⟩, h⟩ := bind_eq_ok_iff.1 h
      obtain ⟨w, hw, h⟩ := bind_eq_ok_iff.1 h
      obtain ⟨m, hm, h⟩ := bind_eq_ok_iff.1 h
      cases h
      exact .cons ⟨rfl, hw⟩ (ih hm)

theorem KeptAs.of_fields (h : (ofFields l).KeptAs depth w) :
    ∃ d m, w = .ofTable (Table.ofList m) ∧
      Forall₂ (fun e f => f.1 = e.1 ∧ e.2.KeptAs d f.2) l m := by
  cases depth with
  | zero => cases h
  | succ d =>
      obtain ⟨m, hm, h⟩ := bind_eq_ok_iff.1 h
      cases h
      exact ⟨d, m, rfl, fields_ofList_inv hm⟩

theorem lowerKeys_ofTable (t : Table Value) :
    lowerKeys (ofTable t) = ofTable (Table.ofList (t.relabel Text.lowercase lowerKeys)) := by
  have hfields (l : List (String × Value)) :
      lowerFields (Fields.ofList l) = l.map fun e => (Text.lowercase e.1, lowerKeys e.2) := by
    induction l with
    | nil => rfl
    | cons e l ih => rw [Fields.ofList, lowerFields, ih, List.map_cons]
  rw [ofTable, ofFields, lowerKeys, hfields]
  rfl

/-- The members of an object that have this name in some case. -/
def named (v : Value) (name : String) : List (String × Value) :=
  v.members.filter fun e => Text.lowercase e.1 = Text.lowercase name

/-- What of a value is decoded: the value as it is kept, with the names of members lowered. -/
def Lowered (v u : Value) : Prop := ∃ depth w, v.KeptAs depth w ∧ u = lowerKeys w

structure LoweredObject (v u : Value) : Prop where
  record : u.IsRecord
  lowered : ∀ k ∈ u.members.map Prod.fst, ∃ j, k = Text.lowercase j
  given : ∀ name e, v.named name = [e] → ∃ x, u.member? (Text.lowercase name) = some x ∧ e.2.Lowered x
  missing : ∀ name, v.named name = [] → u.member? (Text.lowercase name) = none

theorem Lowered.object (h : (ofFields l).Lowered u) : (ofFields l).LoweredObject u := by
  obtain ⟨depth, w, hw, rfl⟩ := h
  obtain ⟨d, m, rfl, hlm⟩ := hw.of_fields
  have hnamed (name : String) :
      Forall₂ (fun e f => f.1 = e.1 ∧ e.2.KeptAs d f.2) ((ofFields l).named name)
        (m.filter fun e => Text.lowercase e.1 = Text.lowercase name) := by
    rw [named, members_ofFields]
    refine List.rel_filter (fun e f hef => ?_) hlm
    simp [hef.1]
  rw [lowerKeys_ofTable]
  refine ⟨isRecord_ofTable _, fun k hk => ?_, fun name e he => ?_, fun name he => ?_⟩
  · obtain ⟨e, he, rfl⟩ := List.mem_map.1 hk
    rw [ofTable, members_ofFields, ← Table.get?_eq_some_iff] at he
    obtain ⟨d, -, hd⟩ := Table.mem_relabel_ofList (Table.mem_of_get?_ofList he)
    exact ⟨d.1, (Prod.ext_iff.1 hd).1⟩
  · have hf := hnamed name
    rw [he] at hf
    obtain ⟨f, rest, ⟨-, hkept⟩, hrest, hfilter⟩ := List.forall₂_cons_left_iff.1 hf
    cases hrest
    rw [member?_ofTable]
    exact ⟨_, Table.get?_relabel_ofList hfilter, d, f.2, hkept, rfl⟩
  · have hf := hnamed name
    rw [he, List.forall₂_nil_left_iff] at hf
    rw [member?_ofTable]
    exact Table.get?_relabel_ofList_eq_none hf

theorem Lowered.string {s : String} (h : (Value.string s).Lowered u) : u = .string s := by
  obtain ⟨depth, w, ⟨⟩, rfl⟩ := h
  rfl

theorem Lowered.null (h : Value.null.Lowered u) : u = .null := by
  obtain ⟨depth, w, ⟨⟩, rfl⟩ := h
  rfl

theorem Lowered.strings {l : List String} (h : (ofItems (l.map .string)).Lowered u) :
    u = .ofItems (l.map .string) := by
  obtain ⟨depth, w, hw, rfl⟩ := h
  have hlower (l : List String) :
      lowerItems (Values.ofList (l.map .string)) = Values.ofList (l.map .string) := by
    induction l with
    | nil => rfl
    | cons s l ih => rw [List.map_cons, Values.ofList, lowerItems, ih, lowerKeys]
  cases depth with
  | zero => cases hw
  | succ d =>
      obtain rfl := Except.ok.inj (hw.symm.trans (keptAs_strings l d))
      rw [ofItems, lowerKeys, hlower]

end Value

end Json

end WebAppTargets
