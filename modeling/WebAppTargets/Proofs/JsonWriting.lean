import WebAppTargets.Proofs.JsonGrammar

namespace WebAppTargets.Json

open Grammar Reader

section String

theorem escape_cases (c : Char) :
    (∃ e, Writer.escape c = ['\\', e] ∧ (e, c) ∈ escapes) ∨
    (c.toNat < 0x20 ∧ Writer.escape c =
      ['\\', 'u', '0', '0', Nat.digitChar (c.toNat / 16), Nat.digitChar (c.toNat % 16)]) ∨
    (Writer.escape c = [c] ∧ c ≠ '"' ∧ c ≠ '\\' ∧ 0x20 ≤ c.toNat) := by
  have hnat {n : Nat} (h : c.toNat = n) : c = Char.ofNat n := by rw [← h, Char.ofNat_toNat]
  fun_cases Writer.escape c with
  | case1 h =>
      rw [Bool.or_eq_true, decide_eq_true_eq, decide_eq_true_eq] at h
      rcases h with rfl | rfl <;> exact .inl ⟨_, rfl, by decide⟩
  | case2 _ h =>
      obtain rfl := hnat h
      exact .inl ⟨'b', rfl, by decide⟩
  | case3 _ _ h =>
      obtain rfl := hnat h
      exact .inl ⟨'f', rfl, by decide⟩
  | case4 _ _ _ h =>
      subst h
      exact .inl ⟨'n', rfl, by decide⟩
  | case5 _ _ _ _ h =>
      subst h
      exact .inl ⟨'r', rfl, by decide⟩
  | case6 _ _ _ _ _ h =>
      subst h
      exact .inl ⟨'t', rfl, by decide⟩
  | case7 _ _ _ _ _ _ h => exact .inr (.inl ⟨h, rfl⟩)
  | case8 hmark _ _ _ _ _ hcontrol =>
      rw [Bool.or_eq_true, decide_eq_true_eq, decide_eq_true_eq, not_or] at hmark
      exact .inr (.inr ⟨rfl, hmark.1, hmark.2, Nat.le_of_not_lt hcontrol⟩)

theorem numeral?_control : ∀ n < 0x20,
    Text.numeral? 16 ['0', '0', Nat.digitChar (n / 16), Nat.digitChar (n % 16)] = some n := by decide

theorem exists_isPiece (c : Char) :
    ∃ p, IsPiece (Writer.escape c) p ∧ ∀ {ps t}, Spell ps t → Spell (p :: ps) (c :: t) := by
  rcases escape_cases c with ⟨e, hc, he⟩ | ⟨hsmall, hc⟩ | ⟨hc, hmark, hslash, hcontrol⟩
  · rw [hc]
    exact ⟨.char c, .escaped he, .char c⟩
  · rw [hc]
    refine ⟨.unit c.toNat, .unit (numeral?_control _ hsmall), fun h => ?_⟩
    have hspell := Spell.unit (.inl (by omega : c.toNat < 0xD800)) h
    rwa [Char.ofNat_toNat] at hspell
  · rw [hc]
    exact ⟨.char c, .plain hmark hslash hcontrol, .char c⟩

theorem isLiteral_string (s : String) : IsLiteral (Writer.string s) (.string (some s)) := by
  have hpieces (t : List Char) : ∃ ps, ArePieces (t.flatMap Writer.escape) ps ∧ Spell ps t := by
    induction t with
    | nil => exact ⟨[], .nil, .nil⟩
    | cons c t ih =>
        obtain ⟨p, hp, hspell⟩ := exists_isPiece c
        obtain ⟨ps, hps, ht⟩ := ih
        exact ⟨p :: ps, .cons hp hps, hspell ht⟩
  obtain ⟨ps, hps, hspell⟩ := hpieces s.toList
  have hliteral := IsLiteral.text hps hspell
  rwa [String.ofList_toList] at hliteral

end String

def Value.Written (v : Value) : Prop := IsValue (Writer.value v) v.node

namespace Value

theorem Written.string (s : String) : (Value.string s).Written := IsValue.string (isLiteral_string s)

theorem Written.bool (b : Bool) : (Value.bool b).Written := by
  cases b
  · exact IsValue.false
  · exact IsValue.true

theorem Written.isElement {v : Value} (h : v.Written) : IsElement (Writer.value v) v.node := by
  have hspace : IsSpace [] := List.forall_mem_nil _
  have helement := IsElement.mk hspace h hspace
  rwa [List.nil_append, List.append_nil] at helement

/-- The items after the first one, which is there already. -/
theorem areElements_values {l : List Value} (h : ∀ v ∈ l, v.Written) {s : List Char} {n : Node}
    (hs : IsElement s n) : ∃ t, s ++ Writer.values (Values.ofList l) = t ++ [']'] ∧
      AreElements t (.item n (Values.ofList l).node) := by
  induction l generalizing s n with
  | nil => exact ⟨s, rfl, .last hs⟩
  | cons v l ih =>
      obtain ⟨hv, hl⟩ := List.forall_mem_cons.1 h
      obtain ⟨t, ht, helements⟩ := ih hl hv.isElement
      refine ⟨s ++ ',' :: t, ?_, .more hs helements⟩
      rw [Values.ofList, Writer.values, List.cons_append, ht, List.append_assoc, List.cons_append]

theorem Written.ofItems {l : List Value} (h : ∀ v ∈ l, v.Written) : (Value.ofItems l).Written := by
  cases l with
  | nil => exact .emptyArray (List.forall_mem_nil _)
  | cons v l =>
      obtain ⟨hv, hl⟩ := List.forall_mem_cons.1 h
      obtain ⟨t, ht, helements⟩ := areElements_values hl hv.isElement
      have htext : Writer.value (Value.ofItems (v :: l)) = '[' :: (t ++ [']']) := by
        rw [Value.ofItems, Values.ofList, Writer.value, List.cons_append, ht]
      rw [Written, htext]
      exact .array helements

theorem areMembers_fields {l : List (String × Value)} (h : ∀ e ∈ l, e.2.Written) (k : String)
    {s : List Char} {n : Node} (hs : IsElement s n) :
    ∃ t, Writer.string k ++ ':' :: (s ++ Writer.fields (Fields.ofList l)) = t ++ ['\x7d'] ∧
      AreMembers t (.member (.string (some k)) n (Fields.ofList l).node) := by
  have hspace : IsSpace [] := List.forall_mem_nil _
  induction l generalizing k s n with
  | nil =>
      refine ⟨_, ?_, .last hspace (isLiteral_string k) hspace hs⟩
      simp [Fields.ofList, Writer.fields]
  | cons e l ih =>
      obtain ⟨he, hl⟩ := List.forall_mem_cons.1 h
      obtain ⟨t, ht, hmembers⟩ := ih hl e.1 he.isElement
      refine ⟨_, ?_, .more hspace (isLiteral_string k) hspace hs hmembers⟩
      simp [Fields.ofList, Writer.fields, ← ht]

theorem Written.ofFields {l : List (String × Value)} (h : ∀ e ∈ l, e.2.Written) :
    (Value.ofFields l).Written := by
  cases l with
  | nil => exact .emptyObject (List.forall_mem_nil _)
  | cons e l =>
      obtain ⟨he, hl⟩ := List.forall_mem_cons.1 h
      obtain ⟨t, ht, hmembers⟩ := areMembers_fields hl e.1 he.isElement
      have htext : Writer.value (Value.ofFields (e :: l)) = '\x7b' :: (t ++ ['\x7d']) := by
        rw [Value.ofFields, Fields.ofList, Writer.value, ← ht]
        simp
      rw [Written, htext]
      exact .object hmembers

theorem Written.isText {v : Value} (h : v.Written) : IsText v.text v.node := by
  rw [IsText, Value.text, String.toList_ofList]
  exact h.isElement

theorem Written.renders {v : Value} (h : v.Written) : Renders v.text v := h.isText.read_eq

end Value

section Objects

theorem Values.node_ofList (l : List Value) : (ofList l).node = .ofList (l.map Value.node) := by
  induction l with
  | nil => rfl
  | cons v l ih => rw [ofList, node, ih, List.map_cons, Items.ofList]

theorem Fields.node_ofList (l : List (String × Value)) :
    (ofList l).node = .ofList (l.map fun e => (e.1, e.2.node)) := by
  induction l with
  | nil => rfl
  | cons e l ih => rw [ofList, node, ih, List.map_cons, Members.ofList]

def nodes (fields : List (String × Value)) : List (String × Node) := fields.map fun e => (e.1, e.2.node)

theorem isText_objects {l : List (List (String × Value))} (h : ∀ fields ∈ l, ∀ e ∈ fields, e.2.Written) :
    IsText (Value.ofItems (l.map .ofFields)).text
      (.array (.ofList ((l.map nodes).map fun es => .object (.ofList es)))) := by
  have hwritten : ∀ v ∈ l.map Value.ofFields, v.Written := by
    intro v hv
    obtain ⟨fields, hfields, rfl⟩ := List.mem_map.1 hv
    exact .ofFields (h fields hfields)
  have hnode : Value.node ∘ Value.ofFields = (fun es => Node.object (.ofList es)) ∘ nodes :=
    funext fun fields => congrArg Node.object (Fields.node_ofList fields)
  have htext := (Value.Written.ofItems hwritten).isText
  rwa [Value.ofItems, Value.node, Values.node_ofList, List.map_map, hnode, ← List.map_map] at htext

end Objects

end WebAppTargets.Json
