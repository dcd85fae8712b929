import WebAppTargets.Client.Memory
import WebAppTargets.Health
import WebAppTargets.Proofs.Cutting
import WebAppTargets.Proofs.Segments
import WebAppTargets.Reconcile

namespace WebAppTargets

namespace Text

def IsPadded (t padded : String) : Prop :=
  ∃ pre post, isBlankText pre ∧ isBlankText post ∧ padded = pre ++ t ++ post

variable {s : List Char} {t padded : String}

theorem not_isBlank_of_mark : ∀ c ∈ ['/', '(', ')'], isBlank c = false := by simp [isBlank]

theorem forall_isBlank (h : isBlankText t) : ∀ c ∈ t.toList, isBlank c := List.all_eq_true.1 h

theorem trim_padded {pre post : List Char} (hpre : ∀ c ∈ pre, isBlank c)
    (hpost : ∀ c ∈ post, isBlank c) (s : List Char) : trim (pre ++ s ++ post) = trim s := by
  rw [trim_append_blank _ hpost, trim_blank_append hpre]

theorem IsPadded.trim_eq (h : IsPadded t padded) : trim padded.toList = trim t.toList := by
  obtain ⟨pre, post, hpre, hpost, rfl⟩ := h
  rw [String.toList_append, String.toList_append]
  exact trim_padded (forall_isBlank hpre) (forall_isBlank hpost) _

theorem IsPadded.stripped_eq (h : IsPadded t padded) : stripped padded = stripped t := by
  rw [stripped, h.trim_eq, stripped]

theorem not_mem_of_isBlank {c : Char} (hc : isBlank c = false) (h : ∀ d ∈ s, isBlank d) : c ∉ s := by
  intro hmem
  rw [h c hmem] at hc
  cases hc

theorem IsPadded.not_mem (h : IsPadded t padded) {c : Char} (hc : isBlank c = false)
    (ht : c ∉ t.toList) : c ∉ padded.toList := by
  obtain ⟨pre, post, hpre, hpost, rfl⟩ := h
  simp [ht, not_mem_of_isBlank hc (forall_isBlank hpre), not_mem_of_isBlank hc (forall_isBlank hpost)]

theorem isBlankText_stripped (t : String) : isBlankText (stripped t) = isBlankText t := by
  rw [isBlankText, toList_stripped, all_isBlank_trim, isBlankText]

theorem stripped_eq_empty (h : isBlankText t) : stripped t = "" := by
  rw [stripped, trim, (trimStart_eq_nil_iff _).2 h]
  rfl

theorem dropEnd_eq_self {mark : Char} (h : mark ∉ s) : dropEnd mark s = s := by
  have hhead : ∀ c ∈ s.reverse.head?, ¬(c == mark) = true := by
    intro c hc hmark
    exact h (eq_of_beq hmark ▸ List.mem_reverse.1 (List.mem_of_mem_head? hc))
  rw [dropEnd]
  cases hs : s.reverse with
  | nil => rw [List.dropWhile_nil, ← hs, List.reverse_reverse]
  | cons c r =>
      have hc : ¬(c == mark) = true := hhead c (by rw [hs]; rfl)
      rw [List.dropWhile_cons, if_neg hc, ← hs, List.reverse_reverse]

theorem dropEnd_concat {mark c : Char} (s : List Char) (h : c ≠ mark) :
    dropEnd mark (s ++ [c]) = s ++ [c] := by
  simp [dropEnd, h]

theorem dropEnd_concat_mark (mark : Char) (s : List Char) :
    dropEnd mark (s ++ [mark]) = dropEnd mark s := by
  simp [dropEnd]

theorem length_dropEnd_le (mark : Char) (s : List Char) : (dropEnd mark s).length ≤ s.length := by
  rw [dropEnd, List.length_reverse, ← s.length_reverse]
  exact (List.dropWhile_suffix _).length_le

end Text

open Text

namespace Naming

variable {what name : String} {limit : Nat}

theorem stripped_of_checkHost (h : checkHost what limit name = .ok ()) : stripped name = name := by
  have hunblank := (plain_of_checkHost h).unblank
  have htrim : trim name.toList = name.toList := trim_eq_self_iff.2
    ⟨fun c hc => hunblank c (List.mem_of_mem_head? hc), fun c hc => hunblank c (List.mem_of_getLast? hc)⟩
  rw [stripped, htrim, String.ofList_toList]

theorem not_blank_of_checkHost (h : checkHost what limit name = .ok ()) : isBlankText name = false := by
  have hunblank := (plain_of_checkHost h).unblank
  cases hs : name.toList with
  | nil =>
      unfold checkHost at h
      rw [hs] at h
      cases h
  | cons c r =>
      rw [isBlankText, hs, List.all_cons, hunblank c (by simp [hs])]
      rfl

theorem marks_not_mem (h : checkHost what limit name = .ok ()) : ∀ c ∈ ['/', '(', ')'], c ∉ name.toList := by
  have hmarks : ∀ c ∈ ['/', '(', ')'], ¬isHostCharacter c := by simp [isHostCharacter]
  exact fun c hc hmem => hmarks c hc (isHostCharacter_of_checkHost h c hmem)

end Naming

namespace Site

/-- A name with what it gives: the web app, and the slot that it names itself. -/
inductive Splits : List Char → List Char → Option (List Char) → Prop
  | slash {app : List Char} (slot : List Char) (happ : '/' ∉ app) :
      Splits (app ++ '/' :: slot) app (some slot)
  | bracket {app slot : List Char} (happ : '/' ∉ app) (hslot : '/' ∉ slot) (hopen : '(' ∉ app) :
      Splits (app ++ '(' :: slot) app (some (dropEnd ')' slot))
  | plain {app : List Char} (happ : '/' ∉ app) (hopen : '(' ∉ app) : Splits app app none

theorem Splits.split_eq {name app : List Char} {slot : Option (List Char)} (h : Splits name app slot) :
    split name = (app, slot) := by
  unfold split
  cases h with
  | slash slot happ => rw [cut_char_append slot happ]
  | @bracket _ slot happ hslot hopen =>
      have hslash : '/' ∉ app ++ '(' :: slot := by simp [happ, hslot]
      rw [cut_char_eq_none hslash, cut_char_append _ hopen]
  | plain happ hopen => rw [cut_char_eq_none happ, cut_char_eq_none hopen]

theorem exists_splits (name : List Char) : ∃ app slot, Splits name app slot := by
  cases hslash : cut ['/'] name with
  | some c =>
      obtain ⟨app, slot⟩ := c
      obtain rfl := eq_append_of_cut hslash
      exact ⟨app, _, .slash slot (not_mem_of_cut hslash)⟩
  | none =>
      have hnone := not_mem_of_cut_eq_none hslash
      cases hopen : cut ['('] name with
      | some c =>
          obtain ⟨app, slot⟩ := c
          obtain rfl := eq_append_of_cut hopen
          simp only [List.cons_append, List.nil_append, List.mem_append, List.mem_cons, not_or] at hnone
          exact ⟨app, _, .bracket hnone.1 hnone.2.2 (not_mem_of_cut hopen)⟩
      | none => exact ⟨name, none, .plain hnone (not_mem_of_cut_eq_none hopen)⟩

def named (slot : Option String) : Option String := (slot.map stripped).filter fun s => !s.isEmpty

theorem named_of_blank {slot : Option String} (h : ∀ e ∈ slot, isBlankText e) : named slot = none := by
  cases slot with
  | none => rfl
  | some e =>
      rw [named, Option.map_some, stripped_eq_empty (h e rfl)]
      rfl

theorem named_of_not_blank {e : String} (h : isBlankText e = false) : named (some e) = stripped e := by
  have hne : stripped e ≠ "" := by
    intro hempty
    rw [← isBlankText_stripped, hempty] at h
    cases h
  simp [named, hne]

variable {rg name : String} {app : List Char} {slot : Option (List Char)}

theorem parse_eq (h : Splits name.toList app slot) (explicit : Option String) :
    parse rg name explicit = of rg (String.ofList (trim app)) (named explicit <|> slot.map String.ofList) := by
  unfold parse
  rw [h.split_eq]
  rfl

theorem parse_named (h : Splits name.toList app slot) {e : String} (he : isBlankText e = false) :
    parse rg name (some e) = ⟨rg, String.ofList (trim app), stripped e⟩ := by
  have hkept : isBlankText (stripped e) = false := (isBlankText_stripped e).trans he
  rw [parse_eq h, named_of_not_blank he]
  simp [of, hkept]

theorem parse_unnamed (h : Splits name.toList app slot) {explicit : Option String}
    (hblank : ∀ e ∈ explicit, isBlankText e) :
    parse rg name explicit = of rg (String.ofList (trim app)) (slot.map String.ofList) := by
  rw [parse_eq h, named_of_blank hblank]
  rfl

/-- However a site is written, with a slot in the web app's name or on its own, and with white space
around each of the two that does not follow the slot in the name, it is the same site. A slot on its own
goes before any in the name, and without either the site is the web app. -/
theorem parse_spellings (rg : String) {app slot padded : String}
    (happ : Naming.checkWebApp app = .ok ()) (hslot : Naming.checkSlot slot = .ok ())
    (hpadded : IsPadded app padded) :
    (∀ explicit : Option String, (∀ e ∈ explicit, isBlankText e) →
      parse rg (padded ++ "/" ++ slot) explicit = of rg app slot ∧
      parse rg (padded ++ "(" ++ slot ++ ")") explicit = of rg app slot ∧
      parse rg padded explicit = ⟨rg, app, none⟩) ∧
    (∀ e, IsPadded slot e → parse rg padded (some e) = of rg app slot) ∧
    ∀ e x : String, isBlankText e = false → '/' ∉ x.toList →
      parse rg padded (some e) = ⟨rg, app, stripped e⟩ ∧
      parse rg (padded ++ "/" ++ x) (some e) = ⟨rg, app, stripped e⟩ ∧
      parse rg (padded ++ "(" ++ x ++ ")") (some e) = ⟨rg, app, stripped e⟩ := by
  have hmark : ∀ c ∈ ['/', '(', ')'], c ∉ padded.toList := fun c hc =>
    hpadded.not_mem (not_isBlank_of_mark c hc) (Naming.marks_not_mem happ c hc)
  have happ' : String.ofList (trim padded.toList) = app :=
    hpadded.stripped_eq.trans (Naming.stripped_of_checkHost happ)
  have hplain : Splits padded.toList padded.toList none := .plain (hmark _ (by simp)) (hmark _ (by simp))
  have hslash (x : String) : Splits (padded ++ "/" ++ x).toList padded.toList (some x.toList) := by
    rw [String.toList_append, String.toList_append, List.append_assoc]
    exact .slash x.toList (hmark _ (by simp))
  have hbracket {x : String} (hx : '/' ∉ x.toList) : Splits (padded ++ "(" ++ x ++ ")").toList
      padded.toList (some (dropEnd ')' x.toList)) := by
    have h : (padded ++ "(" ++ x ++ ")").toList = padded.toList ++ '(' :: (x.toList ++ [')']) := by
      simp
    rw [h, ← dropEnd_concat_mark]
    exact .bracket (hmark _ (by simp)) (by simp [hx]) (hmark _ (by simp))
  have hblank : isBlankText slot = false := Naming.not_blank_of_checkHost hslot
  have hunmarked := Naming.marks_not_mem hslot
  refine ⟨fun explicit hnone => ⟨?_, ?_, ?_⟩, fun e he => ?_, fun e x he hx => ⟨?_, ?_, ?_⟩⟩
  · rw [parse_unnamed (hslash slot) hnone, happ', Option.map_some, String.ofList_toList]
  · rw [parse_unnamed (hbracket (hunmarked _ (by simp))) hnone, happ',
      dropEnd_eq_self (hunmarked _ (by simp)), Option.map_some, String.ofList_toList]
  · rw [parse_unnamed hplain hnone, happ']
    rfl
  · have hslot' : stripped e = slot := he.stripped_eq.trans (Naming.stripped_of_checkHost hslot)
    rw [parse_named hplain (by rw [← isBlankText_stripped, hslot', hblank]), happ', hslot', of,
      Option.filter_some, if_pos (by rw [hblank]; rfl)]
  · rw [parse_named hplain he, happ']
  · rw [parse_named (hslash x) he, happ']
  · rw [parse_named (hbracket hx) he, happ']

theorem parse_spellings_blue :
    parse "rg" " my-app\t/blue" (some " ") = of "rg" "my-app" "blue" ∧
      parse "rg" " my-app\t" (some " blue ") = of "rg" "my-app" "blue" ∧
      parse "rg" " my-app\t(x(y)" (some " blue ") = ⟨"rg", "my-app", "blue"⟩ := by
  have happ : Naming.checkWebApp "my-app" = .ok () := rfl
  have hslot : Naming.checkSlot "blue" = .ok () := rfl
  have hpadded : IsPadded "my-app" " my-app\t" := ⟨" ", "\t", by decide, by decide, by decide⟩
  obtain ⟨hin, hout, hover⟩ := parse_spellings "rg" happ hslot hpadded
  exact ⟨(hin (some " ") (by decide)).1, hout " blue " ⟨" ", " ", by decide, by decide, by decide⟩,
    (hover " blue " "x(y" (by decide) (by decide)).2.2⟩

def afterMark? (name : List Char) : Option (List Char) :=
  ((cut ['/'] name).or (cut ['('] name)).map Prod.snd

/-- The slot in the name does not count: it is blank, or there is none, or there is one on its own. -/
def HasIdleEnd (name : String) (explicit : Option String) : Prop :=
  (∃ e ∈ explicit, isBlankText e = false) ∨ ∀ slot ∈ afterMark? name.toList, slot.all isBlank

section Padding

variable {pre post : List Char} (hpre : ∀ c ∈ pre, isBlank c) (hpost : ∀ c ∈ post, isBlank c)

def kept (slot : Option (List Char)) : Option (List Char) := slot.filter fun s => !s.all isBlank

theorem of_eq (rg app : String) (slot : Option (List Char)) :
    of rg app (slot.map String.ofList) = ⟨rg, app, (kept slot).map String.ofList⟩ := by
  cases slot with
  | none => rfl
  | some s =>
      have hblank : isBlankText (String.ofList s) = s.all isBlank := by simp [isBlankText]
      simp only [of, kept, Option.map_some, Option.filter_some, hblank]
      cases s.all isBlank <;> rfl

include hpost

theorem kept_append (slot : List Char) :
    kept (some (slot ++ post)) = kept (some slot) ↔ post = [] ∨ slot.all isBlank := by
  have hall : post.all isBlank := List.all_eq_true.2 hpost
  simp only [kept, Option.filter_some, List.all_append, hall, Bool.and_true]
  cases slot.all isBlank <;> simp

theorem kept_dropEnd_append (slot : List Char) :
    kept (some (dropEnd ')' (slot ++ post))) = kept (some (dropEnd ')' slot)) ↔
      post = [] ∨ slot.all isBlank := by
  have hbracket {s : List Char} (hs : ∀ c ∈ s, isBlank c) : ')' ∉ s :=
    not_mem_of_isBlank (not_isBlank_of_mark _ (by simp)) hs
  rcases post.eq_nil_or_concat with rfl | ⟨init, c, rfl⟩
  · simp
  · -- white space is last, and so no bracket is taken off
    rw [List.concat_eq_append] at hpost ⊢
    have hc : c ≠ ')' := fun h => hbracket hpost (by simp [h])
    rw [← List.append_assoc, dropEnd_concat _ hc, List.append_assoc]
    cases hslot : slot.all isBlank with
    | true =>
        rw [dropEnd_eq_self (hbracket (List.all_eq_true.1 hslot)), kept_append hpost, hslot]
    | false =>
        have hkept : kept (some (slot ++ (init ++ [c]))) = some (slot ++ (init ++ [c])) := by
          simp [kept, hslot]
        -- what is left without the white space is shorter
        have hlonger : some (slot ++ (init ++ [c])) ≠ kept (some (dropEnd ')' slot)) := by
          intro h
          have hle := length_dropEnd_le ')' slot
          rw [Option.some.inj (Option.filter_eq_some_iff.1 h.symm).1] at hle
          simp only [List.length_append, List.length_cons] at hle
          omega
        simp [hkept, hlonger]

include hpre

/-- White space before a name does not count, and white space after it belongs to the slot in it. -/
theorem Splits.padded {name app : List Char} {slot : Option (List Char)} (h : Splits name app slot) :
    ∃ app' slot', Splits (pre ++ name ++ post) app' slot' ∧ trim app' = trim app ∧
      (kept slot' = kept slot ↔ post = [] ∨ ∀ s ∈ afterMark? name, s.all isBlank) := by
  have hpre' {c : Char} (hc : c ∈ ['/', '(', ')']) : c ∉ pre :=
    not_mem_of_isBlank (not_isBlank_of_mark c hc) hpre
  have hpost' {c : Char} (hc : c ∈ ['/', '(', ')']) : c ∉ post :=
    not_mem_of_isBlank (not_isBlank_of_mark c hc) hpost
  cases h with
  | slash slot happ =>
      refine ⟨pre ++ app, some (slot ++ post), ?_, trim_blank_append hpre app, ?_⟩
      · rw [List.append_assoc, List.append_assoc, List.cons_append, ← List.append_assoc]
        exact .slash (slot ++ post) (by simp [happ, hpre'])
      · rw [kept_append hpost, afterMark?, cut_char_append _ happ]
        simp
  | @bracket _ slot happ hslot hopen =>
      refine ⟨pre ++ app, some (dropEnd ')' (slot ++ post)), ?_, trim_blank_append hpre app, ?_⟩
      · rw [List.append_assoc, List.append_assoc, List.cons_append, ← List.append_assoc]
        exact .bracket (by simp [happ, hpre']) (by simp [hslot, hpost']) (by simp [hopen, hpre'])
      · have hslash : '/' ∉ app ++ '(' :: slot := by simp [happ, hslot]
        rw [kept_dropEnd_append hpost, afterMark?, cut_char_eq_none hslash, cut_char_append _ hopen]
        simp
  | plain happ hopen =>
      refine ⟨pre ++ name ++ post, none, .plain ?_ ?_, trim_padded hpre hpost name, ?_⟩
      · simp [happ, hpre', hpost']
      · simp [hopen, hpre', hpost']
      · rw [afterMark?, cut_char_eq_none happ, cut_char_eq_none hopen]
        simp

end Padding

theorem parse_padded {pre post : String} (hpre : isBlankText pre) (hpost : isBlankText post)
    (rg name : String) (explicit : Option String) :
    (parse rg (pre ++ name ++ post) explicit).webApp = (parse rg name explicit).webApp ∧
      (parse rg (pre ++ name ++ post) explicit = parse rg name explicit ↔
        post = "" ∨ HasIdleEnd name explicit) := by
  obtain ⟨app, slot, hsplits⟩ := exists_splits name.toList
  obtain ⟨app', slot', hpadded, happ, hslot⟩ :=
    hsplits.padded (forall_isBlank hpre) (forall_isBlank hpost)
  rw [← String.toList_append, ← String.toList_append] at hpadded
  by_cases hnamed : ∃ e ∈ explicit, isBlankText e = false
  · obtain ⟨e, rfl, he⟩ := hnamed
    rw [parse_named hpadded he, parse_named hsplits he, happ]
    exact ⟨rfl, iff_of_true rfl (.inr (.inl ⟨e, rfl, he⟩))⟩
  · have hunnamed : ∀ e ∈ explicit, isBlankText e := by simpa using hnamed
    rw [parse_unnamed hpadded hunnamed, parse_unnamed hsplits hunnamed, happ, of_eq, of_eq]
    refine ⟨rfl, ?_⟩
    have hinjective : Function.Injective String.ofList := fun s t => String.ofList_inj.1
    rw [HasIdleEnd, or_iff_right hnamed, ← String.toList_eq_nil_iff, ← hslot, Site.mk.injEq,
      (Option.map_injective hinjective).eq_iff]
    simp

end Site

namespace Variables

theorem nonBlank?_insert (v : Variables) (k j text : String) :
    Variables.nonBlank? (v.insert k text) j =
      if j = k then (if isBlankText text then none else some text) else v.nonBlank? j := by
  rw [nonBlank?, Table.get?_insert]
  split
  · rw [Option.filter_some]
    cases isBlankText text <;> rfl
  · rfl

def padWebApp (v : Variables) (pre name post : String) : Variables :=
  v.insert Variable.webApp (pre ++ name ++ post)

variable {v : Variables} {pre post name : String}

theorem nonBlank?_padWebApp_of_ne {k : String} (h : k ≠ Variable.webApp) :
    (v.padWebApp pre name post).nonBlank? k = v.nonBlank? k := by
  rw [padWebApp, nonBlank?_insert, if_neg h]

theorem nonBlank?_webApp (hname : v.get? Variable.webApp = some name) :
    v.nonBlank? Variable.webApp = if isBlankText name then none else some name := by
  rw [nonBlank?, hname, Option.filter_some]
  cases isBlankText name <;> rfl

theorem nonBlank?_padWebApp (hpre : isBlankText pre) (hpost : isBlankText post) :
    (v.padWebApp pre name post).nonBlank? Variable.webApp =
      if isBlankText name then none else some (pre ++ name ++ post) := by
  have hpre : pre.toList.all isBlank := hpre
  have hpost : post.toList.all isBlank := hpost
  have hblank : isBlankText (pre ++ name ++ post) = isBlankText name := by
    rw [isBlankText, String.toList_append, String.toList_append, List.all_append, List.all_append, hpre,
      hpost, Bool.true_and, Bool.and_true, isBlankText]
  rw [padWebApp, nonBlank?_insert, if_pos rfl, hblank]

end Variables

section Padded

variable {v : Variables} {pre post name : String} (hpre : isBlankText pre) (hpost : isBlankText post)
  (hname : v.get? Variable.webApp = some name)

include hpre hpost hname

theorem Reconcile.plan_padWebApp (h : post = "" ∨ Site.HasIdleEnd name (v.get? Variable.slot)) :
    plan (v.padWebApp pre name post) = plan v := by
  have hsettings : (v.padWebApp pre name post).nonBlank? Variable.appSettings = _ :=
    Variables.nonBlank?_padWebApp_of_ne (by decide)
  have hconnections : (v.padWebApp pre name post).nonBlank? Variable.connectionStrings = _ :=
    Variables.nonBlank?_padWebApp_of_ne (by decide)
  have hdesired : Desired.ofVariables (v.padWebApp pre name post) = Desired.ofVariables v := by
    simp only [Desired.ofVariables, Desired.items, hsettings, hconnections]
  have hslot : (v.padWebApp pre name post).get? Variable.slot = v.get? Variable.slot :=
    v.get?_insert Variable.webApp Variable.slot _
  have hsite (rg : String) := (Site.parse_padded hpre hpost rg name (v.get? Variable.slot)).2.2 h
  unfold plan
  rw [hsettings, hconnections, hslot, hdesired, Variables.nonBlank?_padWebApp hpre hpost,
    Variables.nonBlank?_webApp hname, Variables.nonBlank?_padWebApp_of_ne (by decide)]
  cases isBlankText name with
  | true => rfl
  | false => simp only [Bool.false_eq_true, if_false, Option.elim_some, bind, Except.bind, hsite]

theorem Health.site_padWebApp (h : post = "" ∨ Site.HasIdleEnd name none) :
    site (v.padWebApp pre name post) = site v := by
  have hsite (rg : String) := (Site.parse_padded hpre hpost rg name none).2.2 h
  unfold site
  rw [Variables.nonBlank?_padWebApp hpre hpost, Variables.nonBlank?_webApp hname,
    Variables.nonBlank?_padWebApp_of_ne (by decide)]
  cases isBlankText name with
  | true => rfl
  | false => simp only [Bool.false_eq_true, if_false, Option.elim_some, bind, Except.bind, hsite]

end Padded

namespace Site

/-- White space around a name leaves the web app as it is, and it leaves the site as it is unless it
follows a slot in the name that counts. Then a run and a health check do the same as well. -/
theorem parse_padded_iff {σ : Type} [Client σ] {pre post : String} (hpre : isBlankText pre)
    (hpost : isBlankText post) (name : String) :
    (∀ rg explicit,
      (parse rg (pre ++ name ++ post) explicit).webApp = (parse rg name explicit).webApp ∧
      (parse rg (pre ++ name ++ post) explicit = parse rg name explicit ↔
        post = "" ∨ HasIdleEnd name explicit)) ∧
    ∀ v : Variables, v.get? Variable.webApp = some name →
      (post = "" ∨ HasIdleEnd name (v.get? Variable.slot) →
        (Reconcile.run (v.padWebApp pre name post) : Action σ (Option Site)) = Reconcile.run v) ∧
      (post = "" ∨ HasIdleEnd name none →
        (Health.check (v.padWebApp pre name post) : Action σ Resource) = Health.check v) := by
  refine ⟨fun rg explicit => parse_padded hpre hpost rg name explicit, fun v hname => ⟨fun h => ?_, fun h => ?_⟩⟩
  · rw [Reconcile.run, Reconcile.plan_padWebApp hpre hpost hname h, Reconcile.run]
  · have hsubscription : (v.padWebApp pre name post).getD Variable.subscription =
        v.getD Variable.subscription := by
      rw [Variables.getD, Variables.padWebApp, Table.get?_insert, if_neg (by decide), Variables.getD]
    rw [Health.check, Health.site_padWebApp hpre hpost hname h, Account.ofVariables, hsubscription]
    rfl

def blueVariables (name : String) : Variables := .ofList
  [(Variable.webApp, name), (Variable.resourceGroup, "rg"), (Variable.slot, "green")]

theorem parse_padded_green :
    parse "rg" "\tmy-app/blue " (some "green") = parse "rg" "my-app/blue" (some "green") ∧
      (Health.check (blueVariables "\tmy-app") : Action Memory Resource) =
        Health.check (blueVariables "my-app") := by
  have hpre : isBlankText "\t" := rfl
  have hpost : isBlankText " " := rfl
  have hnone : isBlankText "" := rfl
  have hgreen := (parse_padded_iff (σ := Memory) hpre hpost "my-app/blue").1 "rg" (some "green")
  have hcheck := (parse_padded_iff (σ := Memory) hpre hnone "my-app").2 (blueVariables "my-app") rfl
  have hpadded : (blueVariables "my-app").padWebApp "\t" "my-app" "" = blueVariables "\tmy-app" := by decide
  rw [hpadded] at hcheck
  exact ⟨hgreen.2.2 (.inr (.inl ⟨"green", rfl, rfl⟩)), hcheck.2 (.inl rfl)⟩

theorem padded_slot_kept :
    isBlankText " " ∧ parse "rg" ("" ++ "my-app/blue" ++ " ") none = ⟨"rg", "my-app", "blue "⟩ ∧
      parse "rg" "my-app/blue" none = ⟨"rg", "my-app", "blue"⟩ ∧
      Health.site (blueVariables "my-app/blue ") = .error
        (.invalidName "slot name 'blue ' may only contain letters, digits, and hyphens") ∧
      Health.site (blueVariables "my-app/blue") = .ok ⟨"rg", "my-app", "blue"⟩ := by
  decide

end Site

end WebAppTargets
