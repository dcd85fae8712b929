import WebAppTargets.Proofs.Base64
import WebAppTargets.Proofs.Cutting
import WebAppTargets.Proofs.Outcome
import WebAppTargets.ServiceMessage

namespace WebAppTargets

namespace ServiceMessage

structure KeyFits (key : String) : Prop where
  trimmed : Text.trim key.toList = key.toList
  whole : ¬['=', '"'] <:+: key.toList

instance (key : String) : Decidable (KeyFits key) :=
  decidable_of_iff (Text.trim key.toList = key.toList ∧ ¬['=', '"'] <:+: key.toList)
    ⟨fun h => ⟨h.1, h.2⟩, fun h => ⟨h.trimmed, h.whole⟩⟩

/-- Name and keys that can be told from what stands around them. -/
structure WellFormed (m : ServiceMessage) : Prop where
  named : m.name ≠ ""
  whole : ' ' ∉ m.name.toList
  keys : ∀ e ∈ m.attributes, KeyFits e.1

theorem cut_key {key : List Char} (h : ¬['=', '"'] <:+: key) (t : List Char) :
    Text.cut ['=', '"'] (key ++ (['=', '"'] ++ t)) = some (key, t) := by
  apply Text.cut_append
  rintro a b hab hb ⟨u, hu⟩
  match b with
  | [x] => simp at hu
  | x :: y :: r =>
      simp only [List.cons_append, List.cons.injEq] at hu
      apply h
      rw [hab, hu.1, hu.2.1]
      exact ⟨a, r, by simp⟩

theorem value_encoded (v : String) : value (encoded v) = .ok v := by
  have h : ∀ c ∈ encoded v, c.toNat < 128 := fun c hc => (Base64.plain_of_mem_encode hc).1
  unfold value
  rw [Utf8.encode_ofList h, encoded, Base64.decode_encode]
  simp [Except.mapError, bind, Except.bind, Utf8.decode_encode]

theorem attributesOf_eq (s : List Char) :
    attributesOf s =
      if (Text.trimStart s).isEmpty then .ok []
      else
        match Text.cut ['=', '"'] (Text.trimStart s) with
        | none => .error .noAttribute
        | some (key, afterKey) =>
            match Text.cut ['"'] afterKey with
            | none => .error .openValue
            | some (code, rest) => do
                let v ← value code
                return (String.ofList (Text.trim key), v) :: (← attributesOf rest) := by
  rw [attributesOf]
  split
  · rfl
  · split
    · rename_i hk
      rw [hk]
    · rename_i key afterKey hk
      rw [hk]
      dsimp only
      split
      · rename_i hv
        rw [hv]
      · rename_i code rest hv
        rw [hv]

theorem attributesOf_nil : attributesOf [] = .ok [] := by
  rw [attributesOf_eq]
  rfl

theorem attributesOf_blank (s : List Char) : attributesOf (' ' :: s) = attributesOf s := by
  have h : Text.trimStart (' ' :: s) = Text.trimStart s := rfl
  rw [attributesOf_eq, attributesOf_eq s, h]

theorem attributesOf_of_cut {s key afterKey code rest : List Char} (hs : Text.trimStart s ≠ [])
    (hk : Text.cut ['=', '"'] (Text.trimStart s) = some (key, afterKey))
    (hv : Text.cut ['"'] afterKey = some (code, rest)) :
    attributesOf s = do
      let v ← value code
      return (String.ofList (Text.trim key), v) :: (← attributesOf rest) := by
  rw [attributesOf_eq, if_neg (by simpa using hs), hk]
  dsimp only
  rw [hv]

/-- An attribute in a line: blanks, a key without the mark of a value, and a code between quotation
marks. -/
inductive Delimited (key code : List Char) : List Char → Prop
  | mk (blank : List Char) (hblank : ∀ c ∈ blank, Text.isBlank c) (hkey : ¬['=', '"'] <:+: key)
      (hcode : '"' ∉ code) : Delimited key code (blank ++ key ++ ['=', '"'] ++ code ++ ['"'])

section Delimited

variable {s a key code rest : List Char}

theorem Delimited.attributesOf_append (h : Delimited key code a) (t : List Char) :
    attributesOf (a ++ t) = do
      let v ← value code
      return (String.ofList (Text.trim key), v) :: (← attributesOf t) := by
  obtain ⟨blank, hblank, hkey, hcode⟩ := h
  have htrim : Text.trimStart (blank ++ key ++ ['=', '"'] ++ code ++ ['"'] ++ t) =
      Text.trimStart key ++ (['=', '"'] ++ (code ++ '"' :: t)) := by
    simp only [List.append_assoc, List.cons_append, List.nil_append]
    rw [Text.trimStart_blank_append hblank, Text.trimStart_append_cons key _ rfl]
  have hstart : ¬['=', '"'] <:+: Text.trimStart key := fun hmark =>
    hkey (hmark.trans (List.dropWhile_suffix Text.isBlank).isInfix)
  rw [attributesOf_of_cut (by rw [htrim]; simp) (by rw [htrim]; exact cut_key hstart _)
    (Text.cut_char_append t hcode), Text.trim_trimStart]

theorem delimited_of_cut {afterKey : List Char}
    (hk : Text.cut ['=', '"'] (Text.trimStart s) = some (key, afterKey))
    (hv : Text.cut ['"'] afterKey = some (code, rest)) :
    ∃ a, s = a ++ rest ∧ Delimited key code a := by
  obtain ⟨blank, hblank, hs⟩ := Text.exists_blank_append s
  have hkey := Text.not_infix_of_cut (List.cons_ne_nil _ _) hk
  refine ⟨_, ?_, .mk blank hblank hkey (Text.not_mem_of_cut hv)⟩
  rw [hs, Text.eq_append_of_cut hk, Text.eq_append_of_cut hv]
  simp

/-- A text is blank, or an attribute and a text, or has no attribute in front. -/
@[elab_as_elim]
theorem rounds {motive : List Char → Prop}
    (blank : ∀ s, attributesOf s = .ok [] → (∀ c ∈ s, Text.isBlank c) → motive s)
    (fault : ∀ s f, attributesOf s = .error f → (∀ g, f ≠ .notBase64 g) → motive s)
    (step : ∀ a key code rest, Delimited key code a → motive rest → motive (a ++ rest))
    (s : List Char) : motive s := by
  induction s using attributesOf.induct with
  | case1 s hs =>
      have hok : attributesOf s = .ok [] := by rw [attributesOf_eq, if_pos hs]
      rw [List.isEmpty_iff, Text.trimStart_eq_nil_iff, List.all_eq_true] at hs
      exact blank s hok hs
  | case2 s hs hk =>
      have herror : attributesOf s = .error .noAttribute := by rw [attributesOf_eq, if_neg hs, hk]
      exact fault s _ herror nofun
  | case3 s hs key afterKey hk hv =>
      have herror : attributesOf s = .error .openValue := by
        rw [attributesOf_eq, if_neg hs, hk]
        dsimp only
        rw [hv]
      exact fault s _ herror nofun
  | case4 s hs key afterKey hk code rest hv ih =>
      obtain ⟨a, rfl, ha⟩ := delimited_of_cut hk hv
      exact step a key code rest ha ih

theorem Delimited.keyFits (h : Delimited key code a) : KeyFits (String.ofList (Text.trim key)) where
  trimmed := by rw [String.toList_ofList, Text.trim_trim]
  whole := by
    obtain ⟨-, -, hkey, -⟩ := h
    rw [String.toList_ofList]
    exact fun hmark => hkey (hmark.trans (Text.trim_isInfix key))

theorem KeyFits.delimited {key : String} (h : KeyFits key) (v : String) :
    Delimited key.toList (encoded v) (attributeText (key, v)) :=
  .mk [' '] (List.forall_mem_singleton.2 rfl) h.whole fun hc => (Base64.plain_of_mem_encode hc).2 rfl

end Delimited

theorem attributesOf_attribute {key : String} (h : KeyFits key) (v : String) (t : List Char) :
    attributesOf (attributeText (key, v) ++ t) = (attributesOf t).map ((key, v) :: ·) := by
  rw [(h.delimited v).attributesOf_append, value_encoded, h.trimmed, String.ofList_toList]
  cases attributesOf t <;> rfl

theorem attributesOf_flatMap {l : List (String × String)} (h : ∀ e ∈ l, KeyFits e.1) :
    attributesOf (l.flatMap attributeText) = .ok l := by
  induction l with
  | nil => exact attributesOf_nil
  | cons e r ih =>
      rw [List.flatMap_cons, attributesOf_attribute (h e List.mem_cons_self),
        ih fun d hd => h d (List.mem_cons_of_mem e hd)]
      rfl

def body (m : ServiceMessage) : List Char := m.name.toList ++ m.attributes.flatMap attributeText

theorem envelope_text (m : ServiceMessage) :
    (Text.dropStart? opening.toList (Text.trim m.text.toList)).bind (Text.dropFinish? [']']) =
      some m.body := by
  have ht : m.text.toList = opening.toList ++ (m.body ++ [']']) := by
    simp [text, body]
  have htrim : Text.trim m.text.toList = m.text.toList := by
    have hs : Text.trimStart m.text.toList = m.text.toList := by
      rw [ht]
      exact Text.trimStart_cons rfl
    rw [Text.trim, hs, ht, ← List.append_assoc]
    exact Text.trimEnd_concat rfl
  rw [htrim, ht, Text.dropStart?_append, Option.bind_some, Text.dropFinish?_append]

theorem cut_body (m : ServiceMessage) (h : m.WellFormed) :
    ∃ rest, (Text.cut [' '] m.body).getD (m.body, []) = (m.name.toList, rest) ∧
      attributesOf rest = .ok m.attributes := by
  obtain ⟨name, attributes⟩ := m
  cases attributes with
  | nil =>
      refine ⟨[], ?_, attributesOf_nil⟩
      simp [body, Text.cut_char_eq_none h.whole]
  | cons e r =>
      have hr := attributesOf_flatMap h.keys
      rw [List.flatMap_cons, attributeText, List.append_assoc, List.append_assoc, List.append_assoc,
        List.cons_append, attributesOf_blank] at hr
      refine ⟨_, ?_, hr⟩
      simp [body, attributeText, Text.cut_char_append _ h.whole]

theorem read_text {m : ServiceMessage} (h : m.WellFormed) : read m.text = .ok m := by
  obtain ⟨rest, hcut, hrest⟩ := cut_body m h
  unfold read
  rw [envelope_text]
  simp [bind, Except.bind, pure, Except.pure, hcut, hrest, h.named]

theorem parse_text {m : ServiceMessage} (h : m.WellFormed) : parse m.text = .ok m := by
  rw [parse, read_text h]
  rfl

theorem keyFits_of_attributesOf {s : List Char} {l : List (String × String)}
    (h : attributesOf s = .ok l) : ∀ e ∈ l, KeyFits e.1 := by
  induction s using rounds generalizing l with
  | blank s hs _ =>
      obtain rfl := Except.ok.inj (hs.symm.trans h)
      simp
  | fault s f hs _ =>
      rw [hs] at h
      cases h
  | step a key code rest ha ih =>
      rw [ha.attributesOf_append] at h
      obtain ⟨v, -, h⟩ := bind_eq_ok_iff.1 h
      obtain ⟨r, hr, h⟩ := bind_eq_ok_iff.1 h
      cases h
      exact List.forall_mem_cons.2 ⟨ha.keyFits, ih hr⟩

theorem space_not_mem_name (body : List Char) :
    ' ' ∉ ((Text.cut [' '] body).getD (body, [])).1 := by
  cases hb : Text.cut [' '] body with
  | none => exact Text.not_mem_of_cut_eq_none hb
  | some parts => exact Text.not_mem_of_cut hb

theorem wellFormed_of_read {line : String} {m : ServiceMessage} (h : read line = .ok m) :
    m.WellFormed := by
  unfold read at h
  split at h
  · rename_i body _
    have hspace := space_not_mem_name body
    simp only [pure_bind] at h
    generalize (Text.cut [' '] body).getD (body, []) = parts at h hspace
    obtain ⟨name, rest⟩ := parts
    split at h
    · cases h
    · rename_i hname
      obtain ⟨l, hl, h⟩ := bind_eq_ok_iff.1 h
      cases h
      exact {
        named := by simpa using hname
        whole := by simpa using hspace
        keys := keyFits_of_attributesOf hl }
  · cases h

/-- A message comes back from its text if its name is there and without a space, and each of its keys
has no blank at its ends and no mark of a value inside. No other message does. -/
theorem parse_text_eq_ok_iff (m : ServiceMessage) :
    parse m.text = .ok m ↔
      m.name ≠ "" ∧ ' ' ∉ m.name.toList ∧
        ∀ e ∈ m.attributes, Text.IsTrimmed e.1.toList ∧ ¬['=', '"'] <:+: e.1.toList := by
  constructor
  · intro h
    obtain ⟨hnamed, hwhole, hkeys⟩ := wellFormed_of_read (mapError_eq_ok_iff.1 h)
    exact ⟨hnamed, hwhole, fun e he =>
      ⟨Text.trim_eq_self_iff.1 (hkeys e he).trimmed, (hkeys e he).whole⟩⟩
  · rintro ⟨hnamed, hwhole, hkeys⟩
    exact parse_text ⟨hnamed, hwhole, fun e he =>
      ⟨Text.trim_eq_self_iff.2 (hkeys e he).1, (hkeys e he).2⟩⟩

end ServiceMessage

end WebAppTargets
