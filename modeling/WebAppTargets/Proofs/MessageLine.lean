import Mathlib.Data.Bool.AllAny
import WebAppTargets.Proofs.Registration

namespace WebAppTargets

def Text.IsPrintableAscii (c : Char) : Prop := 0x20 ≤ c.toNat ∧ c.toNat < 0x7F

instance (c : Char) : Decidable (Text.IsPrintableAscii c) := inferInstanceAs (Decidable (_ ∧ _))

/-- A character that means nothing to a reader of messages. -/
def Text.IsTame (c : Char) : Prop := IsPrintableAscii c ∧ c ∉ ['#', '[', ']', '"']

instance (c : Char) : Decidable (Text.IsTame c) := inferInstanceAs (Decidable (_ ∧ _))

open Text

theorem Base64.isTame_of_mem_encode {l : List UInt8} {c : Char} (h : c ∈ encode l) : IsTame c := by
  have hsymbol : ∀ n < 64, IsTame (symbol n) := by decide
  obtain ⟨n, rfl⟩ | rfl := mem_encode h
  · obtain ⟨k, hk, hs⟩ := exists_lt_symbol n
    rw [hs]
    exact hsymbol k hk
  · decide

namespace ServiceMessage

structure IsTame (m : ServiceMessage) : Prop where
  name : ∀ c ∈ m.name.toList, Text.IsTame c
  keys : ∀ e ∈ m.attributes, ∀ c ∈ e.1.toList, Text.IsTame c

/-- The message stands in one line, from the one opening to the one closing bracket, and there are no
quotation marks but two for each attribute. -/
structure Unbroken (m : ServiceMessage) : Prop where
  printable : ∀ c ∈ m.text.toList, IsPrintableAscii c
  closed : ∃ body, m.text.toList = body ++ [']'] ∧ ']' ∉ body
  opened : opening.toList <+: m.text.toList
  opened_once : ∀ before after, m.text.toList = before ++ opening.toList ++ after → before = []
  quotes : m.text.toList.count '"' = 2 * m.attributes.length

variable {m : ServiceMessage} {s : List Char} {e : String × String}

theorem toList_text (m : ServiceMessage) : m.text.toList = opening.toList ++ (m.body ++ [']']) := by
  simp [text, body]

theorem mem_attributeText (he : ∀ c ∈ e.1.toList, Text.IsTame c) {c : Char} (hc : c ∈ attributeText e) :
    Text.IsTame c ∨ c = '"' := by
  simp only [attributeText, encoded, List.mem_append, List.mem_cons, List.not_mem_nil, or_false] at hc
  obtain (((rfl | h) | rfl | rfl) | h) | rfl := hc
  · exact .inl (by decide)
  · exact .inl (he c h)
  · exact .inl (by decide)
  · exact .inr rfl
  · exact .inl (Base64.isTame_of_mem_encode h)
  · exact .inr rfl

theorem IsTame.mem_body (h : m.IsTame) {c : Char} (hc : c ∈ m.body) : Text.IsTame c ∨ c = '"' := by
  rcases List.mem_append.1 hc with hc | hc
  · exact .inl (h.name c hc)
  · obtain ⟨e, he, hc⟩ := List.mem_flatMap.1 hc
    exact mem_attributeText (h.keys e he) hc

theorem IsTame.not_mem_body (h : m.IsTame) {c : Char} (hc : c ∈ ['#', '[', ']']) : c ∉ m.body := by
  intro hmem
  rcases h.mem_body hmem with ⟨-, htame⟩ | rfl
  · simp_all
  · simp at hc

theorem count_attributeText (he : ∀ c ∈ e.1.toList, Text.IsTame c) : (attributeText e).count '"' = 2 := by
  have hkey : e.1.toList.count '"' = 0 := List.count_eq_zero.2 fun hc => (he _ hc).2 (by simp)
  have hcode : (encoded e.2).count '"' = 0 :=
    List.count_eq_zero.2 fun hc => (Base64.isTame_of_mem_encode hc).2 (by simp)
  simp [attributeText, List.count_append, hkey, hcode]

theorem IsTame.count_body (h : m.IsTame) : m.body.count '"' = 2 * m.attributes.length := by
  have hname : m.name.toList.count '"' = 0 := List.count_eq_zero.2 fun hc => (h.name _ hc).2 (by simp)
  have hattributes : m.attributes.map (fun e => (attributeText e).count '"') =
      List.replicate m.attributes.length 2 :=
    List.map_eq_replicate_iff.2 fun e he => count_attributeText (h.keys e he)
  rw [body, List.count_append, hname, List.count_flatMap, Function.comp_def, hattributes,
    List.sum_replicate_nat, Nat.zero_add, Nat.mul_comm]

theorem eq_nil_of_opening {before after : List Char} (hs : '#' ∉ s)
    (h : opening.toList ++ s = before ++ opening.toList ++ after) : before = [] := by
  cases before with
  | nil => rfl
  | cons c before =>
      have hc : c = '#' := (List.cons.inj h).1.symm
      have hcount := congrArg (List.count '#') h
      have hopening : opening.toList.count '#' = 2 := by decide
      rw [List.count_append, List.count_append, List.count_append, hopening, hc, List.count_cons_self,
        List.count_eq_zero.2 hs] at hcount
      omega

theorem IsTame.unbroken (h : m.IsTame) : m.Unbroken where
  printable c hc := by
    have hopening : ∀ c ∈ opening.toList, IsPrintableAscii c := List.all_iff_forall_prop.1 (by decide)
    rw [toList_text, List.mem_append, List.mem_append, List.mem_singleton] at hc
    obtain hc | hc | rfl := hc
    · exact hopening c hc
    · rcases h.mem_body hc with htame | rfl
      · exact htame.1
      · decide
    · decide
  closed := by
    have hopening : ']' ∉ opening.toList := by decide
    refine ⟨opening.toList ++ m.body, by rw [toList_text, List.append_assoc], ?_⟩
    simp [hopening, h.not_mem_body]
  opened := ⟨m.body ++ [']'], (toList_text m).symm⟩
  opened_once before after htext := by
    rw [toList_text] at htext
    exact eq_nil_of_opening (by simp [h.not_mem_body]) htext
  quotes := by
    have hopening : opening.toList.count '"' = 0 := by decide
    rw [toList_text, List.count_append, List.count_append, h.count_body, hopening]
    simp

theorem isTame_of_texts (keys : List String) (hkeys : ∀ e ∈ m.attributes, e.1 ∈ keys)
    (htame : ∀ c ∈ (m.name :: keys).flatMap String.toList, Text.IsTame c) : m.IsTame where
  name c hc := htame c (List.mem_flatMap.2 ⟨m.name, List.mem_cons_self, hc⟩)
  keys e he c hc := htame c (List.mem_flatMap.2 ⟨e.1, List.mem_cons_of_mem _ (hkeys e he), hc⟩)

theorem isTame_setVariable (name value : String) : (setVariable name value).IsTame := by
  refine isTame_of_texts ["name", "value"] (by simp [setVariable]) ?_
  change ∀ c ∈ ["setVariable", "name", "value"].flatMap String.toList, Text.IsTame c
  exact List.all_iff_forall_prop.1 (by decide)

end ServiceMessage

namespace Match

theorem isTame_message (m : Match) : m.message.IsTame := by
  refine ServiceMessage.isTame_of_texts keys (fun e he => m.keys_message (List.mem_map_of_mem he)) ?_
  change ∀ c ∈ ("create-azurewebapptarget" :: keys).flatMap String.toList, Text.IsTame c
  exact List.all_iff_forall_prop.1 (by decide)

theorem message_injective : Function.Injective message := by
  intro m m' h
  have hget (k : String) : m.message.table.get? k = m'.message.table.get? k := by rw [h]
  have htarget : m.target = m'.target := by simpa [get?_table] using hget "name"
  have hslot : m.slot = m'.slot := by simpa [get?_table] using hget "azureWebAppSlot"
  have hwebApp : m.webApp = m'.webApp := by
    simpa [get?_table, List.lookup_cons] using hget "azureWebApp"
  have hgroup : m.resourceGroup = m'.resourceGroup := by
    simpa [get?_table, List.lookup_cons] using hget "azureResourceGroupName"
  have hrole : m.role = m'.role := by
    simpa [get?_table, List.lookup_cons] using hget "octopusRoles"
  cases m
  cases m'
  rw [mk.injEq]
  exact ⟨htarget, hslot, hwebApp, hgroup, hrole⟩

end Match

/-- Whatever texts a target or a variable is made of, its message is one unbroken line; and no two
targets have the same line. -/
theorem ServiceMessage.lines_unbroken :
    (∀ m : Match, m.message.Unbroken) ∧ (∀ name value, (setVariable name value).Unbroken) ∧
      Function.Injective fun m : Match => m.message.text := by
  refine ⟨fun m => m.isTame_message.unbroken, fun name value => (isTame_setVariable name value).unbroken,
    ?_⟩
  intro m m' (h : m.message.text = m'.message.text)
  have hread := parse_text m.message_wellFormed
  rw [h, parse_text m'.message_wellFormed] at hread
  exact Match.message_injective (Except.ok.inj hread).symm

end WebAppTargets
