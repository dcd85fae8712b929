import Mathlib.Data.List.Forall2
import Mathlib.Data.List.Nodup
import WebAppTargets.Json.Decode
import WebAppTargets.Json.Writer
import WebAppTargets.Proofs.Table

namespace WebAppTargets

open List (Forall₂)

section Lookup

variable {α β : Type}

theorem mem_of_lookup {l : List (String × α)} {k : String} {a : α} (h : l.lookup k = some a) :
    k ∈ l.map Prod.fst := by
  obtain ⟨l₁, l₂, rfl, -⟩ := List.lookup_eq_some_iff.1 h
  simp

theorem lookup_forall₂ {R : α → β → Prop} {l : List (String × α)} {m : List (String × β)}
    (h : Forall₂ (fun e f => f.1 = e.1 ∧ R e.2 f.2) l m) (k : String) {a : α}
    (ha : l.lookup k = some a) : ∃ b, m.lookup k = some b ∧ R a b := by
  induction h with
  | nil => cases ha
  | @cons e f l m hef _ ih =>
      obtain ⟨hkey, hR⟩ := hef
      rw [List.lookup_cons] at ha ⊢
      rw [hkey]
      cases hk : k == e.1 with
      | true =>
          rw [hk] at ha
          exact ⟨f.2, rfl, Option.some.inj ha ▸ hR⟩
      | false =>
          rw [hk] at ha
          exact ih ha

theorem keys_forall₂ {R : α → β → Prop} {l : List (String × α)} {m : List (String × β)}
    (h : Forall₂ (fun e f => f.1 = e.1 ∧ R e.2 f.2) l m) : m.map Prod.fst = l.map Prod.fst := by
  induction h with
  | nil => rfl
  | cons hef _ ih => rw [List.map_cons, List.map_cons, hef.1, ih]

end Lookup

namespace Json

variable {α : Type}

/-- The text is that of the value, and nothing else follows. -/
def Renders (text : String) (v : Value) : Prop := read (lettersOf text) = (v.node, false)

deriving instance DecidableEq for Node

instance (text : String) (v : Value) : Decidable (Renders text v) :=
  inferInstanceAs (Decidable (read (lettersOf text) = (v.node, false)))

theorem renders_text_iff {v : Value} :
    Renders v.text v ↔ read ((Writer.value v).map some) = (v.node, false) := by
  rw [Renders, lettersOf, Value.text, String.toList_ofList]

theorem decodeText_of_read {text : String} {n : Node} (h : read (lettersOf text) = (n, false))
    (d : Decoder α) : decodeText d text = d n := by
  rw [decodeText, decodeLetters, h]
  change (d n >>= fun a => pure a) = d n
  cases d n <;> rfl

theorem Renders.decodeText_eq {text : String} {v : Value} (h : Renders text v) (d : Decoder α) :
    decodeText d text = d v.node :=
  decodeText_of_read h d

mutual
theorem Value.skip_node (v : Value) : v.node.skip = .ok () := by
  cases v with
  | array items => exact items.skip_node
  | object fields => exact fields.skip_node
  | _ => rfl
theorem Values.skip_node (items : Values) : items.node.skip = .ok () := by
  cases items with
  | nil => rfl
  | cons v rest =>
      rw [Values.node, Items.skip, v.skip_node]
      exact rest.skip_node
theorem Fields.skip_node (fields : Fields) : fields.node.skip = .ok () := by
  cases fields with
  | nil => rfl
  | cons k v rest =>
      rw [Fields.node, Members.skip, v.skip_node]
      exact rest.skip_node
end

section Depth

mutual
def Value.depth : Value → Nat
  | .array items => items.depth + 1
  | .object fields => fields.depth + 1
  | _ => 0
def Values.depth : Values → Nat
  | .nil => 0
  | .cons v rest => max v.depth rest.depth
def Fields.depth : Fields → Nat
  | .nil => 0
  | .cons _ v rest => max v.depth rest.depth
end

/-- With at most `depth` containers inside each other the value becomes this one. -/
def Value.KeptAs (depth : Nat) (v w : Value) : Prop := v.node.value depth = .ok w

mutual
theorem Value.value_node {v : Value} {depth : Nat} (h : v.depth ≤ depth) : ∃ w, v.KeptAs depth w := by
  cases v with
  | array items =>
      obtain ⟨d, rfl⟩ := Nat.exists_eq_add_of_le' (Nat.le_of_add_left_le h)
      obtain ⟨l, hl⟩ := items.values_node (Nat.le_of_succ_le_succ h)
      exact ⟨.ofItems l, by rw [Value.KeptAs, Value.node, Node.value, hl]; rfl⟩
  | object fields =>
      obtain ⟨d, rfl⟩ := Nat.exists_eq_add_of_le' (Nat.le_of_add_left_le h)
      obtain ⟨l, hl, -⟩ := fields.fields_node (Nat.le_of_succ_le_succ h)
      exact ⟨.ofTable (.ofList l), by rw [Value.KeptAs, Value.node, Node.value, hl]; rfl⟩
  | _ => exact ⟨_, rfl⟩
theorem Values.values_node (items : Values) {depth : Nat} (h : items.depth ≤ depth) :
    ∃ l, items.node.values depth = .ok l := by
  cases items with
  | nil => exact ⟨[], rfl⟩
  | cons v rest =>
      obtain ⟨hv, hrest⟩ := Nat.max_le.1 h
      obtain ⟨w, hw⟩ := v.value_node hv
      obtain ⟨l, hl⟩ := rest.values_node hrest
      exact ⟨w :: l, by rw [Values.node, Items.values, hw, hl]; rfl⟩
theorem Fields.fields_node (fields : Fields) {depth : Nat} (h : fields.depth ≤ depth) :
    ∃ l, fields.node.fields depth = .ok l ∧
      Forall₂ (fun e f => f.1 = e.1 ∧ e.2.KeptAs depth f.2) fields.toList l := by
  cases fields with
  | nil => exact ⟨[], rfl, .nil⟩
  | cons k v rest =>
      obtain ⟨hv, hrest⟩ := Nat.max_le.1 h
      obtain ⟨w, hw⟩ := v.value_node hv
      obtain ⟨l, hl, hforall⟩ := rest.fields_node hrest
      refine ⟨(k, w) :: l, ?_, .cons ⟨rfl, hw⟩ hforall⟩
      rw [Fields.node, Members.fields, hw, hl]
      rfl
end

theorem Value.keptAs_ofFields {l m : List (String × Value)} {depth : Nat}
    (h : Forall₂ (fun e f => f.1 = e.1 ∧ e.2.KeptAs depth f.2) l m) :
    (Value.ofFields l).KeptAs (depth + 1) (.ofTable (.ofList m)) := by
  have hfields : (Fields.ofList l).node.fields depth = .ok m := by
    induction h with
    | nil => rfl
    | @cons e f l m hef _ ih =>
        obtain ⟨hkey, hkept⟩ := hef
        rw [Fields.ofList, Fields.node, Members.fields, hkept, ih, ← hkey]
        rfl
  rw [KeptAs, ofFields, Value.node, Node.value, hfields]
  rfl

theorem Values.values_node_strings (l : List String) (depth : Nat) :
    (Values.ofList (l.map .string)).node.values depth = .ok (l.map .string) := by
  induction l with
  | nil => rfl
  | cons s l ih =>
      rw [List.map_cons, Values.ofList, Values.node, Items.values, ih]
      rfl

theorem Value.keptAs_strings (l : List String) (depth : Nat) :
    (Value.ofItems (l.map .string)).KeptAs (depth + 1) (.ofItems (l.map .string)) := by
  rw [KeptAs, Value.ofItems, Value.node, Node.value, Values.values_node_strings]
  rfl

end Depth

namespace Value

def members : Value → List (String × Value)
  | .object fields => fields.toList
  | _ => []

def member? (v : Value) (name : String) : Option Value := v.members.lookup name

/-- An object that has each key once. -/
def IsRecord (v : Value) : Prop := ∃ l, v = .ofFields l ∧ (l.map Prod.fst).Nodup

@[simp] theorem members_ofFields (l : List (String × Value)) : (ofFields l).members = l :=
  Fields.toList_ofList l

theorem isRecord_ofTable (t : Table Value) : (ofTable t).IsRecord :=
  ⟨t.entries, rfl, List.pairwise_map.2 (t.sorted.imp fun h => String.ne_of_lt h)⟩

@[simp] theorem member?_ofTable (t : Table Value) (k : String) : (ofTable t).member? k = t.get? k := by
  rw [member?, ofTable, members_ofFields, Table.get?, Table.find_eq_lookup]

/-- What a decoder makes of a member; `default` stands for one that is missing. -/
def Gives (v : Value) (name : String) (d : Decoder α) (default a : α) : Prop :=
  match v.member? name with
  | some w => d w.node = .ok a
  | none => a = default

end Value

structure Field.Accepts (f : Field) (v : Value) : Prop where
  plain : f.aliases = []
  given : f.required → (v.member? f.name).isSome
  checked : ∀ w, v.member? f.name = some w → f.check w.node = .ok ()

structure Field.AcceptsAt (f : Field) (key : String) (v : Value) : Prop where
  given : f.required → (v.member? key).isSome
  checked : ∀ w, v.member? key = some w → f.check w.node = .ok ()

section Record

variable {fields : List Field} {v : Value}

theorem Members.collect_known {k : String} {w : Value} {rest : Members} {f : Field} {done : Record}
    (hf : fields.find? (·.spells k) = some f) (hfree : done.find f.name = none)
    (hcheck : f.check w.node = .ok ()) :
    (Members.member (.string (some k)) w.node rest).collect fields done =
      rest.collect fields ((f.name, w.node) :: done) := by
  simp [Members.collect, faulted, Node.key, Except.mapError, hf, hfree, hcheck, bind, Except.bind]

theorem Members.collect_unknown {k : String} {w : Value} {rest : Members} {done : Record}
    (hf : fields.find? (·.spells k) = none) :
    (Members.member (.string (some k)) w.node rest).collect fields done = rest.collect fields done := by
  simp [Members.collect, faulted, Node.key, Except.mapError, hf, w.skip_node, bind, Except.bind]

section Spelling

/-- Of the keys of the object, the one that spells a field is that at which the field is looked for. -/
structure SpelledAt (key : String → String) (fields : List Field) (keys : List String) : Prop where
  spells : ∀ f ∈ fields, ∀ k ∈ keys, f.spells k = (key f.name == k)
  injective : ∀ f ∈ fields, ∀ g ∈ fields, key f.name = key g.name → f.name = g.name

variable {key : String → String}

theorem Members.collect_node {l : List (String × Value)} (hl : (l.map Prod.fst).Nodup)
    (hkey : SpelledAt key fields (l.map Prod.fst))
    (hcheck : ∀ f ∈ fields, ∀ w, l.lookup (key f.name) = some w → f.check w.node = .ok ())
    (done : Record) (hdone : ∀ f ∈ fields, key f.name ∈ l.map Prod.fst → done.find f.name = none) :
    ∃ found, (Fields.ofList l).node.collect fields done = .ok found ∧
      ∀ f ∈ fields, found.find f.name =
        ((l.lookup (key f.name)).map Value.node).or (done.find f.name) := by
  -- on the members that are left, none of which has the key of one that was taken
  induction l generalizing done with
  | nil => exact ⟨done, rfl, fun f _ => rfl⟩
  | cons e l ih =>
      obtain ⟨k, w⟩ := e
      obtain ⟨hk, hl⟩ := List.nodup_cons.1 hl
      have hne : ∀ f ∈ fields, key f.name ∈ l.map Prod.fst → (key f.name == k) = false :=
        fun f _ hf => beq_false_of_ne fun h => hk (h ▸ hf)
      have hspells : ∀ f ∈ fields, f.spells k = (key f.name == k) :=
        fun f hf => hkey.spells f hf k List.mem_cons_self
      have hkey' : SpelledAt key fields (l.map Prod.fst) :=
        ⟨fun f hf j hj => hkey.spells f hf j (List.mem_cons_of_mem _ hj), hkey.injective⟩
      have hcheck' : ∀ f ∈ fields, ∀ w, l.lookup (key f.name) = some w → f.check w.node = .ok () := by
        intro f hf x hx
        apply hcheck f hf
        rw [List.lookup_cons, hne f hf (mem_of_lookup hx)]
        exact hx
      cases hf : fields.find? (·.spells k) with
      | some f =>
          have hmem := List.mem_of_find?_eq_some hf
          have hspelt : f.spells k := List.find?_some (p := fun f => Field.spells f k) hf
          have hname : key f.name = k := eq_of_beq (hspells f hmem ▸ hspelt)
          have hother : ∀ g ∈ fields, (key g.name == k) = false → (g.name == f.name) = false := by
            intro g _ hg
            refine beq_false_of_ne fun h => ?_
            rw [h, hname, beq_self_eq_true] at hg
            cases hg
          obtain ⟨found, hfound, hlookup⟩ := ih hl hkey' hcheck' ((f.name, w.node) :: done) (by
            intro g hg hgl
            rw [Record.find, List.lookup_cons, hother g hg (hne g hg hgl)]
            exact hdone g hg (List.mem_cons_of_mem _ hgl))
          refine ⟨found, ?_, fun g hg => ?_⟩
          · rw [Fields.ofList, Fields.node, collect_known hf (hdone f hmem (by simp [hname]))
              (hcheck f hmem w (by simp [hname])), hfound]
          · rw [hlookup g hg, Record.find, List.lookup_cons, List.lookup_cons]
            cases hgk : key g.name == k with
            | false => rw [hother g hg hgk]; rfl
            | true =>
                have hgf : g.name = f.name :=
                  hkey.injective g hg f hmem ((eq_of_beq hgk).trans hname.symm)
                have hnone : l.lookup (key g.name) = none := by
                  by_contra h
                  obtain ⟨x, hx⟩ := Option.ne_none_iff_exists'.1 h
                  exact Bool.false_ne_true ((hne g hg (mem_of_lookup hx)).symm.trans hgk)
                rw [hnone, hgf, beq_self_eq_true]
                rfl
      | none =>
          obtain ⟨found, hfound, hlookup⟩ := ih hl hkey' hcheck' done
            fun g hg hgl => hdone g hg (List.mem_cons_of_mem _ hgl)
          refine ⟨found, ?_, fun g hg => ?_⟩
          · rw [Fields.ofList, Fields.node, collect_unknown hf, hfound]
          · have hgk : (key g.name == k) = false := by
              rw [← hspells g hg]
              exact Bool.eq_false_iff.2 (List.find?_eq_none.1 hf g hg)
            rw [hlookup g hg, List.lookup_cons, hgk]

theorem Decoder.record_spelled (hv : v.IsRecord)
    (hkey : SpelledAt key fields (v.members.map Prod.fst))
    (h : ∀ f ∈ fields, f.AcceptsAt (key f.name) v) (source : Source) (name : String) :
    ∃ found, Decoder.record source name fields v.node = .ok found ∧
      ∀ f ∈ fields, found.find f.name = (v.member? (key f.name)).map Value.node := by
  obtain ⟨l, rfl, hl⟩ := hv
  rw [Value.members_ofFields] at hkey
  have hmember (k : String) : (Value.ofFields l).member? k = l.lookup k := by
    rw [Value.member?, Value.members_ofFields]
  obtain ⟨found, hfound, hlookup⟩ := Members.collect_node hl hkey
    (fun f hf w hw => (h f hf).checked w ((hmember (key f.name)).trans hw)) [] fun _ _ _ => rfl
  have hfind : ∀ f ∈ fields,
      found.find f.name = ((Value.ofFields l).member? (key f.name)).map Value.node := by
    intro f hf
    rw [hlookup f hf, hmember]
    exact Option.or_none
  have hgiven : fields.find? (fun f => f.required && (found.find f.name).isNone) = none := by
    apply List.find?_eq_none.2
    intro f hf hmissing
    rw [Bool.and_eq_true, hfind f hf, Option.isNone_map] at hmissing
    have hsome := (h f hf).given hmissing.1
    rw [← Option.not_isNone, hmissing.2] at hsome
    cases hsome
  refine ⟨found, ?_, hfind⟩
  rw [Value.ofFields, Value.node, Decoder.record, hfound]
  simp only [bind, Except.bind, hgiven]
  rfl

end Spelling

theorem Decoder.record_node (hv : v.IsRecord) (h : ∀ f ∈ fields, f.Accepts v) (source : Source)
    (name : String) :
    ∃ found, Decoder.record source name fields v.node = .ok found ∧
      ∀ f ∈ fields, found.find f.name = (v.member? f.name).map Value.node := by
  have hkey : SpelledAt id fields (v.members.map Prod.fst) := by
    refine ⟨fun f hf k _ => ?_, fun f _ g _ h => h⟩
    simp [Field.spells, (h f hf).plain]
  exact Decoder.record_spelled hv hkey (fun f hf => ⟨(h f hf).given, (h f hf).checked⟩) source name

variable {name : String} {d : Decoder α} {default a : α}

theorem Value.Gives.acceptsAt {key : String} (h : v.Gives key d default a) (aliases : List String) :
    (Field.defaulted name aliases d).AcceptsAt key v where
  given h := absurd h Bool.false_ne_true
  checked w hw := by
    unfold Gives at h
    rw [hw] at h
    change (d w.node).map _ = _
    rw [h]
    rfl

theorem Value.Gives.accepts (h : v.Gives name d default a) : (Field.defaulted name [] d).Accepts v :=
  ⟨rfl, (h.acceptsAt []).given, (h.acceptsAt []).checked⟩

theorem Record.getD_eq_ok_iff {found : Record} :
    found.getD name d default = .ok a ↔ (found.find name).elim (a = default) (d · = .ok a) := by
  rw [getD]
  cases found.find name with
  | none => exact ⟨fun h => (Except.ok.inj h).symm, fun h => congrArg _ h.symm⟩
  | some n => exact Iff.rfl

theorem Value.Gives.getD_eq_at {key : String} (h : v.Gives key d default a) {found : Record}
    (hfound : found.find name = (v.member? key).map Value.node) :
    found.getD name d default = .ok a := by
  rw [Gives] at h
  rw [Record.getD_eq_ok_iff, hfound]
  cases hw : v.member? key with
  | some w =>
      rw [hw] at h
      exact h
  | none =>
      rw [hw] at h
      exact h

theorem Value.Gives.getD_eq (h : v.Gives name d default a) {found : Record}
    (hfound : found.find name = (v.member? name).map Value.node) :
    found.getD name d default = .ok a :=
  h.getD_eq_at hfound

def Value.Has (v : Value) (name : String) (d : Decoder α) (a : α) : Prop :=
  ∃ w, v.member? name = some w ∧ d w.node = .ok a

theorem Value.Has.acceptsAt {key : String} (h : v.Has key d a) (aliases : List String) :
    (Field.mandatory name aliases d).AcceptsAt key v := by
  obtain ⟨w, hw, ha⟩ := h
  refine ⟨fun _ => Option.isSome_iff_exists.2 ⟨w, hw⟩, fun x hx => ?_⟩
  obtain rfl := Option.some.inj (hw.symm.trans hx)
  change (d w.node).map _ = _
  rw [ha]
  rfl

theorem Value.Has.accepts (h : v.Has name d a) : (Field.mandatory name [] d).Accepts v :=
  ⟨rfl, (h.acceptsAt []).given, (h.acceptsAt []).checked⟩

theorem Value.Has.get_eq_at {key : String} (h : v.Has key d a) {found : Record}
    (hfound : found.find name = (v.member? key).map Value.node) : found.get name d = .ok a := by
  obtain ⟨w, hw, ha⟩ := h
  rw [Record.get, hfound, hw]
  exact ha

theorem Value.Has.get_eq (h : v.Has name d a) {found : Record}
    (hfound : found.find name = (v.member? name).map Value.node) : found.get name d = .ok a :=
  h.get_eq_at hfound

end Record

section Collections

variable {tells : Value → α → Prop} {d : Decoder α}

def Value.TellsList (tells : Value → α → Prop) (v : Value) (m : List α) : Prop :=
  ∃ l, v = .ofItems l ∧ Forall₂ tells l m

/-- The value is an object of values that tell those of the table, in any order. -/
def Value.TellsTable (tells : Value → α → Prop) (v : Value) (t : Table α) : Prop :=
  ∃ l m, v = .ofFields l ∧ Forall₂ (fun e f => f.1 = e.1 ∧ tells e.2 f.2) l m ∧ Table.ofList m = t

theorem Value.TellsList.decode_node {v : Value} {m : List α} (h : v.TellsList tells m)
    (hd : ∀ v a, tells v a → d v.node = .ok a) : Decoder.list d v.node = .ok m := by
  obtain ⟨l, rfl, hl⟩ := h
  change Decoder.ofItems d (Values.ofList l).node = .ok m
  induction hl with
  | nil => rfl
  | cons hva _ ih =>
      rw [Values.ofList, Values.node, Decoder.ofItems, hd _ _ hva, ih]
      rfl

theorem Value.TellsTable.decode_node {v : Value} {t : Table α} (h : v.TellsTable tells t)
    (hd : ∀ v a, tells v a → d v.node = .ok a) : Decoder.table d v.node = .ok t := by
  obtain ⟨l, m, rfl, hl, rfl⟩ := h
  have hmembers : Decoder.ofMembers d (Fields.ofList l).node = .ok m := by
    induction hl with
    | nil => rfl
    | cons hef _ ih =>
        rw [Fields.ofList, Fields.node, Decoder.ofMembers, hd _ _ hef.2, ih, ← hef.1]
        rfl
  change (Decoder.ofMembers d (Fields.ofList l).node).map Table.ofList = _
  rw [hmembers]
  rfl

end Collections

end Json

end WebAppTargets
