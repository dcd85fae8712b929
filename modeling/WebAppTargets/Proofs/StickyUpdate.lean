import Mathlib.Tactic.NormNum
import WebAppTargets.Proofs.JsonWriting
import WebAppTargets.Proofs.Unrounded
import WebAppTargets.Proofs.Writes

namespace WebAppTargets

open Json
open List (Forall₂)

variable {α : Type}

/-- What a record of a reply has for `properties`. A list stands for a record too. -/
inductive Json.Node.Shows : Node → Option Node → Prop
  | record (members : List (String × Node)) :
      Shows (.object (.ofList members)) (last? "properties" members)
  | item (n : Node) : Shows (.array (.ofList [n])) (some n)
  | noItem : Shows (.array (.ofList [])) none

namespace SlotConfiguration

/-- The members of the configuration in a reply, none of them if there are no properties. -/
inductive Told (n : Node) : List (String × Node) → Prop
  | given {members : List (String × Node)} (h : n.Shows (some (.object (.ofList members)))) :
      Told n members
  | missing (h : n.Shows none) : Told n []

/-- The members are those that were told, each once and with the same value, but for the names, which
are these in rising order. -/
structure Updates (told : List (String × Node)) (names : NameSet) (l : List (String × Value)) :
    Prop where
  rising : l.Pairwise fun e f => e.1 < f.1
  names : ∃ ns : List String, l.lookup "appSettingNames" = some (.ofItems (ns.map .string)) ∧
    ns.Pairwise (· < ·) ∧ ∀ n, n ∈ ns ↔ names.contains n
  others : ∀ k, k ≠ "appSettingNames" → Option.Rel Node.Says (last? k told) (l.lookup k)

/-- When the body is a text without a number that is rounded, the members are those of its properties,
with the same values, but for the names. -/
def KeepsValues (body : Body) (l : List (String × Value)) : Prop :=
  ∀ (text : String) (told : List (String × Value)), body = text → Grammar.TextOf text (.ofFields told) →
    ∀ k, k ≠ "appSettingNames" → l.lookup k = (told.lookup "properties").bind (·.member? k)

end SlotConfiguration

theorem shows_of_properties {d : Decoder (Table α)} {n : Node} {t : Table α}
    (h : properties d n = .ok t) :
    ∃ p, n.Shows p ∧ p.elim (t = .empty) (d · = .ok t) := by
  obtain ⟨found, hfound, ht⟩ := bind_eq_ok_iff.1 h
  have ht := Record.getD_eq_ok_iff.1 ht
  cases n with
  | object members =>
      obtain ⟨r, hr, hrequired⟩ := bind_eq_ok_iff.1 hfound
      cases hrequired
      obtain ⟨es, rfl, rfl⟩ := Members.of_collect rfl hr
      rw [List.append_nil] at ht
      exact ⟨_, .record es, find_filter_reverse es _ ▸ ht⟩
  | array items =>
      cases items with
      | closed =>
          cases hfound
          exact ⟨none, .noItem, ht⟩
      | cut f => cases hfound
      | item p rest =>
          obtain ⟨-, -, hplaced⟩ := bind_eq_ok_iff.1 hfound
          cases rest with
          | closed =>
              cases hplaced
              exact ⟨some p, .item p, ht⟩
          | cut f => cases hplaced
          | item q rest => cases hplaced
  | _ => cases hfound

theorem of_object_decode {outer : Nat} {n : Node} {t : Table Value}
    (h : Decoder.object outer n = .ok t) :
    ∃ members l, n = .object (.ofList members) ∧ t = Table.ofList l ∧
      Forall₂ (fun e f => e.1 = f.1 ∧ e.2.Says f.2) members l ∧
        ∀ f ∈ l, f.2.depth ≤ maxDepth - outer - 1 := by
  cases n with
  | object members =>
      obtain ⟨l, hl, rfl⟩ := map_eq_ok_iff.1 h
      obtain ⟨es, rfl, hmeant, hdepth⟩ := members.says_of_fields (mapError_eq_ok_iff.1 hl)
      exact ⟨es, l, rfl, rfl, hmeant, hdepth⟩
  | _ => cases h

theorem value_of_object_decode {outer : Nat} {n : Node} {t : Table Value}
    (h : Decoder.object outer n = .ok t) : n.value (maxDepth - outer - 1 + 1) = .ok (.ofTable t) := by
  cases n with
  | object members =>
      obtain ⟨l, hl, rfl⟩ := map_eq_ok_iff.1 h
      rw [Node.value, mapError_eq_ok_iff.1 hl]
      rfl
  | _ => cases h

namespace SlotConfiguration

variable {n : Node} {c : SlotConfiguration}

theorem of_decode (h : decode n = .ok c) :
    ∃ told l, Told n told ∧ c.members = Table.ofList l ∧
      Forall₂ (fun e f => e.1 = f.1 ∧ e.2.Says f.2) told l ∧ ∀ f ∈ l, f.2.depth ≤ maxDepth - 1 - 1 := by
  obtain ⟨t, ht, h⟩ := bind_eq_ok_iff.1 h
  cases h
  obtain ⟨p, hp, ht⟩ := shows_of_properties ht
  cases p with
  | none => exact ⟨[], [], .missing hp, ht, .nil, by simp⟩
  | some p =>
      obtain ⟨members, l, rfl, rfl, hmeant, hdepth⟩ := of_object_decode ht
      exact ⟨members, l, .given hp, rfl, hmeant, hdepth⟩

theorem get?_of_membersMean {es : List (String × Node)} {told : List (String × Value)}
    (h : decode (.object (.ofList es)) = .ok c) (hmean : MembersMean es told) (k : String) :
    c.members.get? k = ((Table.ofList told).get? "properties").bind (·.member? k) := by
  obtain ⟨t, ht, h⟩ := bind_eq_ok_iff.1 h
  cases h
  obtain ⟨p, hp, ht⟩ := shows_of_properties ht
  have hlast := last?_forall₂ hmean "properties"
  rw [get?_ofList_eq_last?]
  generalize hes : Node.object (.ofList es) = n at hp
  cases hp with
  | record members =>
      obtain rfl := Members.ofList_inj (Node.object.inj hes)
      generalize last? "properties" es = o, last? "properties" told = q at ht hlast
      cases hlast with
      | none =>
          cases ht
          rfl
      | some hmeans =>
          rw [Option.bind_some, ← hmeans (value_of_object_decode ht), Value.member?_ofTable]
  | _ => cases hes

theorem updates_withNames (h : decode n = .ok c) (names : NameSet) :
    ∃ told l, Told n told ∧ Updates told names l ∧
      (∀ k, k ≠ "appSettingNames" → l.lookup k = c.members.get? k) ∧
      (c.withNames names).json = .ofFields [("properties", .ofFields l)] ∧
      TellsNames (c.withNames names).json names := by
  obtain ⟨told, l, htold, hmembers, hmeant, hdepth⟩ := of_decode h
  -- the table is the one of all that was kept, but for one entry
  have hlookup (k : String) : (c.withNames names).members.entries.lookup k =
      if k = "appSettingNames" then some (.ofItems (names.toList.map .string)) else c.members.get? k := by
    rw [← Table.find_eq_lookup]
    exact Table.get?_insert c.members namesKey k _
  have hdepth : ∀ e ∈ (c.withNames names).members.entries, e.2.depth ≤ maxDepth - 1 - 1 := by
    intro e he
    rcases Table.mem_put he with rfl | he
    · exact Nat.le_trans (Value.depth_strings names.toList) (by decide)
    · rw [hmembers] at he
      exact hdepth e (Table.mem_of_mem_ofList he)
  refine ⟨told, (c.withNames names).members.entries, htold, {
    rising := (c.withNames names).members.sorted
    names := ⟨names.toList, (hlookup _).trans (if_pos rfl), List.pairwise_map.2 names.sorted,
      names.mem_toList⟩
    others := fun k hk => by
      rw [hlookup, if_neg hk, hmembers, get?_ofList_eq_last?]
      exact last?_forall₂ hmeant k }, fun k hk => (hlookup k).trans (if_neg hk), rfl, {
    record := ⟨_, rfl, List.nodup_singleton _⟩
    properties := ⟨.ofTable (c.withNames names).members, names.toList, rfl, Value.isRecord_ofTable _,
      ?_, member?_withNames c names, NameSet.ofList_toList names⟩ }⟩
  exact Nat.lt_of_le_of_lt (Nat.succ_le_succ (Fields.depth_ofList_le_iff.2 hdepth)) (by decide)

end SlotConfiguration

def Reply.node (reply : Reply) : Node := (Json.read reply.body.letters).1

theorem Reply.decode_node_of_read {reply : Reply} {d : Decoder α} {a : α} (h : reply.read d = .ok a) :
    d reply.node = .ok a := by
  obtain ⟨b, hb, hend⟩ := bind_eq_ok_iff.1 (Reply.read_eq_ok_iff.1 h).2
  obtain ⟨-, hend⟩ := unless_eq_ok_iff.1 hend
  cases hend
  exact hb

theorem SlotConfiguration.keepsValues {reply : Reply} {c : SlotConfiguration} {l : List (String × Value)}
    (h : reply.read decode = .ok c) (hl : ∀ k, k ≠ "appSettingNames" → l.lookup k = c.members.get? k) :
    KeepsValues reply.body l := by
  intro text told hbody htext k hk
  obtain ⟨es, members, hread, hmean, rfl⟩ := htext.exists_members
  have hnode : reply.node = .object (.ofList es) := by
    rw [Reply.node, hbody, Body.letters_text, Grammar.IsText.read_eq hread]
  rw [hl k hk, get?_of_membersMean (hnode ▸ Reply.decode_node_of_read h) hmean, Table.get?,
    Table.find_eq_lookup]

namespace Reconcile

variable {r : Rest} {s : Site} {t u : Turn} {sent : List Turn} {q : Except Error Unit}

theorem eq_of_pair_eq {v : Turn} {before after : List Turn} (h : [t, u] = before ++ v :: after) :
    before = [] ∧ v = t ∨ before = [t] ∧ v = u := by
  cases before with
  | nil => exact .inl ⟨rfl, (List.cons.inj h).1.symm⟩
  | cons b l =>
      obtain ⟨rfl, hrest⟩ := List.cons.inj h
      cases l with
      | nil => exact .inr ⟨rfl, (List.cons.inj hrest).1.symm⟩
      | cons b l => simp at hrest

theorem Course.pair (h : Course r s [t, u] q sent) (ht : r.Reaches (t.step.address r s))
    (hu : r.Reaches (u.step.address r s)) :
    ((r.reply 0).IsGood t.step.decoder ∧ sent = [t, u] ∧
        (q = .ok () ↔ (r.reply 1).IsGood u.step.decoder)) ∨
      (¬(r.reply 0).IsGood t.step.decoder ∧ sent = [t] ∧ q ≠ .ok ()) := by
  cases h with
  | finished hgood =>
      exact .inl ⟨hgood 0 t rfl, rfl, fun _ => hgood 1 u rfl, fun _ => rfl⟩
  | refused before v after hturns hgood hbad =>
      rcases eq_of_pair_eq hturns with ⟨rfl, rfl⟩ | ⟨rfl, rfl⟩
      · exact .inr ⟨hbad, rfl, nofun⟩
      · exact .inl ⟨hgood 0 t rfl, rfl, nofun, fun h => absurd h hbad⟩
  | unsent before v after hturns hgood hreach cause =>
      rcases eq_of_pair_eq hturns with ⟨rfl, rfl⟩ | ⟨rfl, rfl⟩
      · exact absurd ht hreach
      · exact absurd hu hreach

end Reconcile

namespace Rest

open WebAppTargets.Action Reconcile

def configurationUrl (r : Rest) (s : Site) : String :=
  r.webAppAddress s.resourceGroup s.webApp ++ "/config/slotConfigNames" ++ "?api-version=" ++ r.version

theorem configurationUrl_ne (r : Rest) {s : Site} (h : s.slot.isSome) :
    r.configurationUrl s ≠ r.siteAddress s ++ "/config/slotConfigNames" ++ "?api-version=" ++ r.version := by
  obtain ⟨slot, hslot⟩ := Option.isSome_iff_exists.1 h
  intro heq
  have hlength := congrArg String.length heq
  simp only [configurationUrl, siteAddress, hslot, toString, String.length_append] at hlength
  have hslots : "/slots/".length = 7 := rfl
  omega

def configurationRead (r : Rest) (s : Site) : Request :=
  ⟨.get, r.configurationUrl s, r.token, none⟩

def configurationWrite (r : Rest) (s : Site) (l : List (String × Value)) : Request :=
  ⟨.put, r.configurationUrl s, r.token, some (.ofFields [("properties", .ofFields l)])⟩

/-- How sticky names are put, and what the service receives. The configuration is read first; only of a
good reply comes a write, which tells the rest of the configuration as it was read, and from which the
names can be read again. -/
inductive PutsNames (r : Rest) (s : Site) (names : NameSet) :
    Except Error Unit → List Request → Prop
  | unsent (hreach : ¬r.Reaches (r.configurationUrl s)) (e : Error) : PutsNames r s names (.error e) []
  | unread (hreach : r.Reaches (r.configurationUrl s))
      (hbad : ¬(r.reply 0).IsGood SlotConfiguration.decode) (e : Error) :
      PutsNames r s names (.error e) [r.configurationRead s]
  | written (hreach : r.Reaches (r.configurationUrl s))
      (hgood : (r.reply 0).IsGood SlotConfiguration.decode) {told : List (String × Node)}
      (htold : SlotConfiguration.Told (r.reply 0).node told) {l : List (String × Value)}
      (hupdates : SlotConfiguration.Updates told names l)
      (hkeeps : SlotConfiguration.KeepsValues (r.reply 0).body l)
      (hreread : ∃ c, SlotConfiguration.decode (Value.ofFields [("properties", .ofFields l)]).node =
        .ok c ∧ NameSet.ofList c.names = names)
      {q : Except Error Unit} (hq : q = .ok () ↔ (r.reply 1).IsGood SlotConfiguration.decode) :
      PutsNames r s names q [r.configurationRead s, r.configurationWrite s l]

section Run

variable {r : Rest} {s : Site}

theorem putsNames_of_course {c : SlotConfiguration} {names : NameSet} {q : Except Error Unit}
    {sent : List Turn} (hreach : r.Reaches (r.configurationUrl s))
    (hc : ∀ c', (r.reply 0).read SlotConfiguration.decode = .ok c' → c' = c)
    (h : Course r s [{ step := .readNames },
      { step := .writeNames, body := (c.withNames names).json }] q sent) :
    PutsNames r s names q (sent.map (Turn.request r s)) := by
  rcases h.pair hreach hreach with ⟨hgood, rfl, hq⟩ | ⟨hbad, rfl, hq⟩
  · obtain ⟨c', hread⟩ := Reply.isGood_iff.1 hgood
    obtain rfl := hc c' hread
    obtain ⟨told, l, htold, hupdates, hl, hbody, htells⟩ :=
      SlotConfiguration.updates_withNames (Reply.decode_node_of_read hread) names
    rw [hbody] at htells ⊢
    exact .written hreach hgood htold hupdates (SlotConfiguration.keepsValues hread hl) htells.decode_node hq
  · cases q with
    | ok u => exact absurd rfl hq
    | error e => exact .unread hreach hbad e

theorem putSticky_puts (hopen : r.isOpen) (hvalid : s.validate = .ok ()) (names : NameSet) :
    ∃ q sent, PutsNames r s names q sent ∧ Ends r (Client.putSticky s names) q (r.after sent) := by
  -- a course does not say whether its first request gets through, so this is settled before
  by_cases hreach : r.Reaches (r.configurationUrl s)
  · obtain ⟨c, hc⟩ := Reply.exists_says SlotConfiguration.decode (r.reply 0)
    obtain ⟨q, sent, hcourse, hends⟩ := putSticky_performs hopen hvalid hc names
    have hq : (q.map fun _ => ()) = q := by cases q <;> rfl
    exact ⟨q, _, putsNames_of_course hreach hc hcourse, hq ▸ hends⟩
  · obtain ⟨e, he⟩ := (slotConfiguration_asks hopen hvalid).unreached hreach
    refine ⟨_, [], .unsent hreach (.operation "arm" "get-slot-settings" s.text e), ?_⟩
    rw [after_nil]
    exact (he.inContext _).bind_error

end Run

/-- Sticky names are put for a valid site on an open client with one read and one write of the
configuration of the web app, which is not that of the slot. A success that tells a configuration is
always good enough for it. What is not rounded when it is read comes back with its value. -/
theorem putSticky_keeps_configuration {w : World Rest} {s : Site} (names : NameSet)
    (hopen : w.client.isOpen) (hvalid : s.validate = .ok ()) :
    (∃ sent,
      PutsNames w.client s names ((Client.putSticky s names : Action Rest Unit) w).1 sent ∧
      ((Client.putSticky s names : Action Rest Unit) w).2.client.network.received =
        w.client.network.received ++ sent) ∧
      (s.slot.isSome → w.client.configurationUrl s ≠
        w.client.siteAddress s ++ "/config/slotConfigNames" ++ "?api-version=" ++ w.client.version) ∧
      ∀ v, (w.client.reply 0).Holds v → TellsConfiguration v →
        (w.client.reply 0).IsGood SlotConfiguration.decode := by
  obtain ⟨q, sent, hputs, hends⟩ := putSticky_puts hopen hvalid names
  obtain ⟨hresult, hclient⟩ := hends w rfl
  refine ⟨⟨sent, hresult ▸ hputs, congrArg (·.network.received) hclient⟩, configurationUrl_ne _,
    fun v hv htells => Reply.isGood_iff.2 ?_⟩
  obtain ⟨c, hc⟩ := htells.decode_node
  exact ⟨c, hv.read_eq hc⟩

section Witness

open Grammar

def tellingClient (text : String) : Rest := .loopback [⟨200, text⟩, ⟨200, emptyJson.text⟩]

theorem tellingClient_reaches (text : String) :
    (tellingClient text).Reaches ((tellingClient text).configurationUrl blueSite) :=
  blueSite_reaches _ .readNames

def countText : String := "\x7b\"properties\":\x7b\"appSettingNames\":[\"X\"],\"n\":-12\x7d\x7d"

def countJson : Value :=
  .ofFields [("properties", .ofFields [("appSettingNames", .ofItems [.string "X"]), ("n", .number (.int (-12)))])]

theorem countText_textOf : TextOf countText countJson := by
  have hspace : IsSpace [] := List.forall_mem_nil _
  have helement {s : List Char} {v : Value} (h : ValueOf s v) : ElementOf s v := by
    simpa using ElementOf.mk hspace h hspace
  have hmember {s : List Char} {v : Value} (key : String) (h : ValueOf s v) :
      MembersOf (Writer.string key ++ ':' :: s) [(key, v)] := by
    simpa using MembersOf.last hspace (isLiteral_string key) hspace (helement h)
  have hnumber : ValueOf ['-', '1', '2'] (.number (.int (-12))) := by
    have hdigits : AreDigits ['1', '2'] [1, 2] := ⟨rfl, by simp, by simp⟩
    have hnumeral : IsNumeral ['-', '1', '2'] ⟨true, [1, 2], none, none⟩ :=
      .mk (.tail _ (.head _)) hdigits (by simp) .absent .absent
    exact .number hnumeral (hnumeral.isKept rfl)
  have hnames : ValueOf "[\"X\"]".toList (.ofItems [.string "X"]) :=
    .array (.last (helement (.string (isLiteral_string "X"))))
  have hproperties : MembersOf "\"appSettingNames\":[\"X\"],\"n\":-12".toList _ :=
    .more hspace (isLiteral_string "appSettingNames") hspace (helement hnames) (hmember "n" hnumber)
  exact helement (.object (hmember "properties" (.object hproperties)))

theorem countJson_tells : TellsConfiguration countJson where
  record := ⟨_, rfl, List.nodup_singleton _⟩
  properties w hw := by
    cases hw
    exact ⟨_, rfl, by decide⟩

theorem putSticky_keeps_configuration_blue :
    ∃ told l, SlotConfiguration.Told ((tellingClient countText).reply 0).node told ∧
      SlotConfiguration.Updates told (.ofList ["Y", "A"]) l ∧ l.lookup "n" = some (.number (.int (-12))) ∧
      ((Client.putSticky blueSite (.ofList ["Y", "A"]) : Action Rest Unit)
        { client := tellingClient countText }).2.client.network.received =
          [(tellingClient countText).configurationRead blueSite,
            (tellingClient countText).configurationWrite blueSite l] := by
  obtain ⟨⟨sent, hputs, hreceived⟩, -, hgood⟩ := putSticky_keeps_configuration (s := blueSite)
    (w := { client := tellingClient countText }) (.ofList ["Y", "A"]) rfl rfl
  have hgood := hgood countJson (Renders.holds (by decide +kernel)) countJson_tells
  generalize ((Client.putSticky blueSite (.ofList ["Y", "A"]) : Action Rest Unit)
    { client := tellingClient countText }).1 = q at hputs
  cases hputs with
  | unsent hreach => exact absurd (tellingClient_reaches countText) hreach
  | unread _ hbad => exact absurd hgood hbad
  | written _ _ htold hupdates hkeeps =>
      exact ⟨_, _, htold, hupdates, hkeeps _ _ rfl countText_textOf "n" (by decide), hreceived⟩

def longText : String := "\x7b\"properties\":\x7b\"n\":12345678901234567890123\x7d\x7d"

def longNumeral : Numeral :=
  ⟨false, [1, 2, 3, 4, 5, 6, 7, 8, 9, 0, 1, 2, 3, 4, 5, 6, 7, 8, 9, 0, 1, 2, 3], none, none⟩

def roundedNumeral : Numeral :=
  ⟨false, [1], some [2, 3, 4, 5, 6, 7, 8, 9, 0, 1, 2, 3, 4, 5, 6, 8], some (false, [2, 2])⟩

theorem longNumeral_isNumeral : IsNumeral "12345678901234567890123".toList longNumeral := by
  have hdigits : AreDigits "12345678901234567890123".toList longNumeral.whole :=
    ⟨rfl, by simp [longNumeral], by decide⟩
  exact .mk (.head _) hdigits (by simp [longNumeral]) .absent .absent

theorem roundedNumeral_isNumeral : IsNumeral "1.2345678901234568e+22".toList roundedNumeral := by
  have hwhole : AreDigits ['1'] [1] := ⟨rfl, by simp, by simp⟩
  have hfraction : AreDigits "2345678901234568".toList [2, 3, 4, 5, 6, 7, 8, 9, 0, 1, 2, 3, 4, 5, 6, 8] :=
    ⟨rfl, by simp, by decide⟩
  have hexponent : AreDigits ['2', '2'] [2, 2] := ⟨rfl, by simp, by simp⟩
  exact .mk (.head _) hwhole (by simp) (.given hfraction) (.given (.head _) (.tail _ (.head _)) hexponent)

theorem number_ne : longNumeral.number ≠ roundedNumeral.number := by
  norm_num [longNumeral, roundedNumeral, Numeral.number, Numeral.power, Numeral.ofDigits]

def roundedConfiguration : SlotConfiguration :=
  ⟨.ofList [("n", .number (.float ⟨false, 12345678901234567741440 * Nat.pow 2 1074⟩))]⟩

theorem read_longText : ((tellingClient longText).reply 0).read SlotConfiguration.decode =
    .ok roundedConfiguration := by
  decide +kernel

/-- A number with more digits than are kept comes back as another one. -/
theorem long_number_rounded :
    ∃ body, ((Client.putSticky blueSite (.ofList ["A"]) : Action Rest Unit)
        { client := tellingClient longText }).2.client.network.received =
      [(tellingClient longText).configurationRead blueSite,
        ⟨.put, (tellingClient longText).configurationUrl blueSite, (tellingClient longText).token, some body⟩] ∧
      body.text = "\x7b\"properties\":\x7b\"appSettingNames\":[\"A\"],\"n\":1.2345678901234568e+22\x7d\x7d" ∧
      IsNumeral "12345678901234567890123".toList longNumeral ∧
      IsNumeral "1.2345678901234568e+22".toList roundedNumeral ∧
      longNumeral.number ≠ roundedNumeral.number := by
  have hsays : ((tellingClient longText).reply 0).Says SlotConfiguration.decode roundedConfiguration :=
    fun c hc => Except.ok.inj (hc.symm.trans read_longText)
  obtain ⟨q, sent, hcourse, hends⟩ := putSticky_performs (r := tellingClient longText) (s := blueSite)
    rfl rfl hsays (.ofList ["A"])
  have hgood : ((tellingClient longText).reply 1).IsGood SlotConfiguration.decode :=
    emptyJson_isGood (a := ⟨.empty⟩) rfl
  obtain ⟨rfl, rfl⟩ := hcourse.eq_finished fun i t ht => by
    have hreach := tellingClient_reaches longText
    match i with
    | 0 =>
        cases ht
        exact ⟨hreach, Reply.isGood_iff.2 ⟨_, read_longText⟩⟩
    | 1 =>
        cases ht
        exact ⟨hreach, hgood⟩
    | _ + 2 => cases ht
  refine ⟨_, congrArg (·.network.received) (hends { client := tellingClient longText } rfl).2, ?_,
    longNumeral_isNumeral, roundedNumeral_isNumeral, number_ne⟩
  decide +kernel

end Witness

end Rest

end WebAppTargets
