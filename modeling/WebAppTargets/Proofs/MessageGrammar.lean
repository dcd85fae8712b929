import WebAppTargets.Proofs.Canonicity
import WebAppTargets.Proofs.MessageRoundTrip

namespace WebAppTargets

namespace ServiceMessage

/-- Attributes one after the other, each with the code of a text, and what they say. -/
inductive Attributes : List Char → List (String × String) → Prop
  | nil : Attributes [] []
  | cons {a key s : List Char} {v : String} {l : List (String × String)}
      (ha : Delimited key (encoded v) a) (hs : Attributes s l) :
      Attributes (a ++ s) ((String.ofList (Text.trim key), v) :: l)

inductive Tail : List Char → List (String × String) → Prop
  | none : Tail [] []
  | some {s blank : List Char} {l : List (String × String)} (hs : Attributes s l)
      (hblank : ∀ c ∈ blank, Text.isBlank c) : Tail (' ' :: (s ++ blank)) l

/-- But for white space around it, the line is a name and a tail between the brackets. -/
structure Enveloped (line : String) (name tail : List Char) : Prop where
  text : Text.trim line.toList = opening.toList ++ name ++ tail ++ [']']
  named : name ≠ []
  whole : ' ' ∉ name

def Written (line : String) (m : ServiceMessage) : Prop :=
  ∃ tail, Enveloped line m.name.toList tail ∧ Tail tail m.attributes

/-- The first fault of the line is an attribute with a code that no octets have. -/
def Misencoded (line : String) : Prop :=
  ∃ name s l a key code rest, Enveloped line name (' ' :: (s ++ (a ++ rest))) ∧ Attributes s l ∧
    Delimited key code a ∧ ∀ octets, code ≠ Base64.encode octets

section Value

variable {code : List Char} {v : String}

theorem value_eq_ok_iff : value code = .ok v ↔ code = encoded v := by
  rw [value, bind_eq_ok_iff, encoded]
  simp only [mapError_eq_ok_iff, Base64.decode_characters_eq_ok_iff, Utf8.decode_eq_ok_iff]
  constructor
  · rintro ⟨octets, rfl, rfl⟩
    rfl
  · rintro rfl
    exact ⟨_, rfl, rfl⟩

theorem value_notBase64_iff :
    (∃ f, value code = .error (.notBase64 f)) ↔ ∀ octets, code ≠ Base64.encode octets := by
  simp only [ne_eq, ← Base64.decode_characters_eq_ok_iff, value]
  cases Base64.decode (Utf8.encode (String.ofList code)) with
  | error f => exact ⟨fun _ => nofun, fun _ => ⟨f, rfl⟩⟩
  | ok octets =>
      refine ⟨fun ⟨f, hf⟩ => ?_, fun h => absurd rfl (h octets)⟩
      obtain ⟨_, -, hfault⟩ := mapError_eq_error_iff.1 hf
      cases hfault

end Value

section Attributes

variable {s a key code rest : List Char} {l : List (String × String)}

theorem Attributes.attributesOf_append (h : Attributes s l) (t : List Char) :
    attributesOf (s ++ t) = (attributesOf t).map (l ++ ·) := by
  induction h with
  | nil => cases h : attributesOf t <;> simp [Except.map, h]
  | cons ha _ ih =>
      rw [List.append_assoc, ha.attributesOf_append, value_eq_ok_iff.2 rfl, ih]
      cases attributesOf t <;> rfl

theorem attributesOf_blanks (h : ∀ c ∈ s, Text.isBlank c) : attributesOf s = .ok [] := by
  rw [attributesOf_eq, if_pos]
  rwa [List.isEmpty_iff, Text.trimStart_eq_nil_iff, List.all_eq_true]

theorem attributesOf_eq_ok_iff :
    attributesOf s = .ok l ↔
      ∃ t blank, s = t ++ blank ∧ Attributes t l ∧ ∀ c ∈ blank, Text.isBlank c := by
  constructor
  · intro h
    induction s using rounds generalizing l with
    | blank s hs hblank =>
        obtain rfl := Except.ok.inj (hs.symm.trans h)
        exact ⟨[], s, rfl, .nil, hblank⟩
    | fault s f hs _ =>
        rw [hs] at h
        cases h
    | step a key code rest ha ih =>
        rw [ha.attributesOf_append] at h
        obtain ⟨v, hvalue, h⟩ := bind_eq_ok_iff.1 h
        obtain ⟨l, hl, h⟩ := bind_eq_ok_iff.1 h
        cases h
        obtain rfl := value_eq_ok_iff.1 hvalue
        obtain ⟨t, blank, rfl, ht, hblank⟩ := ih hl
        exact ⟨a ++ t, blank, (List.append_assoc a t blank).symm, .cons ha ht, hblank⟩
  · rintro ⟨t, blank, rfl, ht, hblank⟩
    rw [ht.attributesOf_append, attributesOf_blanks hblank]
    exact congrArg _ (List.append_nil l)

theorem attributesOf_notBase64_iff :
    (∃ f, attributesOf s = .error (.notBase64 f)) ↔
      ∃ t l a key code rest, s = t ++ (a ++ rest) ∧ Attributes t l ∧ Delimited key code a ∧
        ∀ octets, code ≠ Base64.encode octets := by
  constructor
  · rintro ⟨f, h⟩
    induction s using rounds with
    | blank s hs _ =>
        rw [hs] at h
        cases h
    | fault s g hs hg => exact absurd (Except.error.inj (hs.symm.trans h)) (hg f)
    | step a key code rest ha ih =>
        rw [ha.attributesOf_append] at h
        cases hvalue : value code with
        | error g =>
            rw [hvalue] at h
            cases h
            exact ⟨[], [], a, key, code, rest, rfl, .nil, ha, value_notBase64_iff.1 ⟨f, hvalue⟩⟩
        | ok v =>
            obtain rfl := value_eq_ok_iff.1 hvalue
            rw [hvalue] at h
            cases hrest : attributesOf rest with
            | error g =>
                rw [hrest] at h
                cases h
                obtain ⟨t, l, b, key', code', rest, rfl, ht, hb⟩ := ih hrest
                exact ⟨a ++ t, _, b, key', code', rest, (List.append_assoc a t _).symm, .cons ha ht, hb⟩
            | ok l =>
                rw [hrest] at h
                cases h
  · rintro ⟨t, l, a, key, code, rest, rfl, ht, ha, hcode⟩
    obtain ⟨f, hf⟩ := value_notBase64_iff.2 hcode
    refine ⟨f, ?_⟩
    rw [ht.attributesOf_append, ha.attributesOf_append, hf]
    rfl

end Attributes

section Line

variable {line : String} {name s : List Char} {m : ServiceMessage}

theorem Enveloped.body_eq {tail : List Char} (h : Enveloped line name tail) :
    (Text.dropStart? opening.toList (Text.trim line.toList)).bind (Text.dropFinish? [']']) =
      some (name ++ tail) := by
  rw [h.text, List.append_assoc, List.append_assoc, Text.dropStart?_append, Option.bind_some,
    ← List.append_assoc, Text.dropFinish?_append]

theorem Enveloped.read_nil (h : Enveloped line name []) : read line = .ok ⟨String.ofList name, []⟩ := by
  unfold read
  rw [h.body_eq, List.append_nil]
  simp [bind, Except.bind, pure, Except.pure, Text.cut_char_eq_none h.whole, h.named, attributesOf_nil]

theorem Enveloped.read_cons (h : Enveloped line name (' ' :: s)) :
    read line = (attributesOf s).map (⟨String.ofList name, ·⟩) := by
  unfold read
  rw [h.body_eq]
  simp only [bind, Except.bind, pure, Except.pure, Text.cut_char_append s h.whole, Option.getD_some,
    List.isEmpty_iff, h.named, if_false]
  cases attributesOf s <;> rfl

theorem enveloped_cases (line : String) :
    (∃ name, Enveloped line name []) ∨ (∃ name s, Enveloped line name (' ' :: s)) ∨
      ∃ f, read line = .error f ∧ ∀ g, f ≠ .notBase64 g := by
  cases hbody : (Text.dropStart? opening.toList (Text.trim line.toList)).bind
      (Text.dropFinish? [']']) with
  | none =>
      refine .inr (.inr ⟨.noEnvelope, ?_, nofun⟩)
      unfold read
      rw [hbody]
      rfl
  | some body =>
      obtain ⟨t, ht, hbody'⟩ := Option.bind_eq_some_iff.1 hbody
      have htext : Text.trim line.toList = opening.toList ++ body ++ [']'] := by
        rw [Text.eq_append_of_dropStart? ht, Text.eq_append_of_dropFinish? hbody', List.append_assoc]
      by_cases hname : ((Text.cut [' '] body).getD (body, [])).1 = []
      · refine .inr (.inr ⟨.noName, ?_, nofun⟩)
        unfold read
        rw [hbody]
        simp [bind, Except.bind, pure, Except.pure, hname]
        rfl
      · cases hcut : Text.cut [' '] body with
        | none =>
            rw [hcut] at hname
            refine .inl ⟨body, ?_, hname, Text.not_mem_of_cut_eq_none hcut⟩
            rw [htext, List.append_nil]
        | some parts =>
            obtain ⟨name, s⟩ := parts
            rw [hcut] at hname
            refine .inr (.inl ⟨name, s, ?_, hname, Text.not_mem_of_cut hcut⟩)
            rw [htext, Text.eq_append_of_cut hcut]
            simp

theorem read_eq_ok_iff : read line = .ok m ↔ Written line m := by
  constructor
  · intro h
    rcases enveloped_cases line with ⟨name, he⟩ | ⟨name, s, he⟩ | ⟨f, hf, -⟩
    · obtain rfl := Except.ok.inj (he.read_nil.symm.trans h)
      exact ⟨[], by simpa using he, .none⟩
    · rw [he.read_cons] at h
      obtain ⟨l, hl, rfl⟩ := map_eq_ok_iff.1 h
      obtain ⟨t, blank, rfl, ht, hblank⟩ := attributesOf_eq_ok_iff.1 hl
      exact ⟨_, by simpa using he, .some ht hblank⟩
    · rw [hf] at h
      cases h
  · rintro ⟨tail, he, htail⟩
    obtain ⟨name, attributes⟩ := m
    cases htail with
    | none => rw [he.read_nil, String.ofList_toList]
    | some hs hblank =>
        rw [he.read_cons, attributesOf_eq_ok_iff.2 ⟨_, _, rfl, hs, hblank⟩, String.ofList_toList]
        rfl

theorem read_notBase64_iff : (∃ f, read line = .error (.notBase64 f)) ↔ Misencoded line := by
  constructor
  · rintro ⟨f, h⟩
    rcases enveloped_cases line with ⟨name, he⟩ | ⟨name, s, he⟩ | ⟨g, hg, hother⟩
    · rw [he.read_nil] at h
      cases h
    · rw [he.read_cons, map_eq_error_iff] at h
      obtain ⟨t, l, a, key, code, rest, rfl, ht, ha, hcode⟩ := attributesOf_notBase64_iff.1 ⟨f, h⟩
      exact ⟨name, t, l, a, key, code, rest, he, ht, ha, hcode⟩
    · exact absurd (Except.error.inj (hg.symm.trans h)) (hother f)
  · rintro ⟨name, t, l, a, key, code, rest, he, ht, ha, hcode⟩
    obtain ⟨f, hf⟩ := attributesOf_notBase64_iff.2 ⟨t, l, a, key, code, rest, rfl, ht, ha, hcode⟩
    exact ⟨f, by rw [he.read_cons, hf]; rfl⟩

/-- A line is read if and only if it is of the grammar, as the message that the grammar gives it. An
error is one of Base64 when the first fault of the line is a code that no octets have, and one of the
context in every other case. -/
theorem parse_exact (line : String) :
    (∀ m, parse line = .ok m ↔ Written line m) ∧
      ((∃ f, parse line = .error (.base64 f)) ↔ Misencoded line) ∧
      ((∃ reason, parse line = .error (.invalidContext reason)) ↔
        (∀ m, ¬Written line m) ∧ ¬Misencoded line) := by
  simp only [← read_eq_ok_iff, ← read_notBase64_iff, parse]
  cases read line with
  | ok m => simp [Except.mapError]
  | error f => cases f <;> simp [Except.mapError, MessageFault.error]

end Line

section Blanks

variable {line : String} {s : List Char} {l : List (String × String)} {m : ServiceMessage}

theorem Attributes.withoutBlanks_eq (h : Attributes s l) :
    Text.withoutBlanks s = Text.withoutBlanks (l.flatMap attributeText) := by
  induction h with
  | nil => rfl
  | @cons a key s v l ha _ ih =>
      obtain ⟨blank, hblank, -, -⟩ := ha
      simp only [List.flatMap_cons, attributeText, Text.withoutBlanks_append, Text.withoutBlanks_space,
        String.toList_ofList, Text.withoutBlanks_trim, Text.withoutBlanks_blank hblank, ih,
        List.nil_append]

theorem Written.withoutBlanks_eq (h : Written line m) :
    Text.withoutBlanks m.text.toList = Text.withoutBlanks line.toList := by
  obtain ⟨tail, he, htail⟩ := h
  have ht : Text.withoutBlanks tail = Text.withoutBlanks (m.attributes.flatMap attributeText) := by
    generalize m.attributes = l at htail ⊢
    cases htail with
    | none => rfl
    | some hs hblank =>
        rw [Text.withoutBlanks_space, Text.withoutBlanks_append, Text.withoutBlanks_blank hblank,
          List.append_nil, hs.withoutBlanks_eq]
  rw [← Text.withoutBlanks_trim line.toList, he.text, text, String.toList_ofList]
  simp only [Text.withoutBlanks_append, ht]

/-- Of a line that is read, its message lacks white space alone. The message is well formed, and comes
back from its own text. -/
theorem parse_loses_blanks (h : parse line = .ok m) :
    Text.withoutBlanks m.text.toList = Text.withoutBlanks line.toList ∧ m.WellFormed ∧
      parse m.text = .ok m := by
  have hread : read line = .ok m := mapError_eq_ok_iff.1 h
  exact ⟨(read_eq_ok_iff.1 hread).withoutBlanks_eq, wellFormed_of_read hread,
    parse_text (wellFormed_of_read hread)⟩

/-- Blanks around the line, in the name and in a key, and an attribute that is a blank and a mark. -/
def spaced : String := "\t##octopus[a\tb  k = k=\"Zm9v\"\u00a0=\"\" ] "

def keyed : ServiceMessage := ⟨"a\tb", [("k = k", "foo"), ("", "")]⟩

theorem parse_spaced : parse spaced = .ok keyed :=
  mapError_eq_ok_iff.2 (by decide +kernel : read spaced = .ok keyed)

theorem parse_loses_blanks_spaced :
    parse spaced = .ok keyed ∧
      Text.withoutBlanks keyed.text.toList = Text.withoutBlanks spaced.toList ∧ keyed.WellFormed ∧
        parse keyed.text = .ok keyed :=
  ⟨parse_spaced, parse_loses_blanks parse_spaced⟩

end Blanks

end ServiceMessage

end WebAppTargets
