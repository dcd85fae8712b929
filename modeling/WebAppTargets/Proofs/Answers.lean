import WebAppTargets.Proofs.Exchange
import WebAppTargets.Proofs.Octets
import WebAppTargets.Proofs.Records

namespace WebAppTargets

open Json
open List (Forall₂)

variable {α : Type}

structure Reply.Holds (reply : Reply) (v : Value) : Prop where
  success : reply.isSuccess
  body : ∃ text : String, reply.body = text ∧ Renders text v

theorem Json.Renders.holds {text : String} {v : Value} (h : Renders text v) : Reply.Holds ⟨200, text⟩ v :=
  ⟨rfl, text, rfl, h⟩

theorem Body.letters_text (text : String) : (text : Body).letters = lettersOf text := Utf8.letters_encode text

theorem Reply.Holds.read_eq {α : Type} {reply : Reply} {v : Value} {d : Decoder α} {a : α}
    (h : reply.Holds v) (hd : d v.node = .ok a) : reply.read d = .ok a := by
  obtain ⟨text, hbody, hrenders⟩ := h.body
  refine read_eq_ok_iff.2 ⟨h.success, ?_⟩
  rw [hbody, Body.letters_text]
  exact (hrenders.decodeText_eq d).trans hd

def TellsText (v : Value) (s : String) : Prop := v = .string s

inductive TellsOption (tells : Value → α → Prop) : Option Value → Option α → Prop
  | missing : TellsOption tells none none
  | null : TellsOption tells (some .null) none
  | given {v : Value} {a : α} (h : tells v a) : TellsOption tells (some v) (some a)

structure TellsDetails (v : Value) (details : Option String × Option String) : Prop where
  record : v.IsRecord
  plan : TellsOption TellsText (v.member? "serverFarmId") details.1
  lastModified : TellsOption TellsText (v.member? "lastModifiedTimeUtc") details.2

structure TellsSite (v : Value) (s : ListedSite) : Prop where
  record : v.IsRecord
  name : v.member? "name" = some (.string s.name)
  tags : ∃ tags, TellsOption (Value.TellsTable TellsText) (v.member? "tags") tags ∧
    s.tags = tags.getD .empty
  details : ∃ details, TellsOption TellsDetails (v.member? "properties") details ∧
    s.plan = details.bind Prod.fst ∧
    s.lastModified = (details.bind Prod.snd).bind Timestamp.ofService?

inductive TellsNext : Option Value → Option String → Prop
  | missing : TellsNext none none
  | null : TellsNext (some .null) none
  | empty : TellsNext (some (.string "")) none
  | link {url : String} (h : url ≠ "") : TellsNext (some (.string url)) (some url)

structure TellsPage (v : Value) (p : Page) : Prop where
  record : v.IsRecord
  sites : ∃ w, v.member? "value" = some w ∧ w.TellsList TellsSite p.sites
  next : TellsNext (v.member? "nextLink") p.next

structure TellsProperties (tells : Value → α → Prop) (v : Value) (t : Table α) : Prop where
  record : v.IsRecord
  properties : ∃ w, v.member? "properties" = some w ∧ w.TellsTable tells t

structure TellsConnection (v : Value) (c : ConnectionString) : Prop where
  record : v.IsRecord
  value : v.member? "value" = some (.string c.value)
  kind : v.member? "type" = some (.string c.kind.text) ∨ v.member? "type" = none ∧ c.kind = .custom

/-- An object whose properties, if it has any, are an object that is not nested too deep. -/
structure TellsConfiguration (v : Value) : Prop where
  record : v.IsRecord
  properties : ∀ w, v.member? "properties" = some w → ∃ l, w = .ofFields l ∧ w.depth < maxDepth

/-- A configuration in which these names are sticky, in whatever order they are listed. -/
structure TellsNames (v : Value) (names : NameSet) : Prop where
  record : v.IsRecord
  properties : ∃ w l, v.member? "properties" = some w ∧ w.IsRecord ∧ w.depth < maxDepth ∧
    w.member? "appSettingNames" = some (.ofItems (l.map .string)) ∧ NameSet.ofList l = names

section Decode

variable {v : Value}

theorem TellsText.decode_node {s : String} (h : TellsText v s) : Decoder.string v.node = .ok s := by
  rw [TellsText] at h
  rw [h]
  rfl

theorem TellsOption.of_map {tells : Value → α → Prop} {f : α → Value} {o : Option α}
    (h : ∀ a ∈ o, tells (f a) a) : TellsOption tells (o.map f) o := by
  cases o with
  | none => exact .missing
  | some a => exact .given (h a rfl)

theorem TellsOption.gives {tells : Value → α → Prop} {d : Decoder α} {name : String} {o : Option α}
    (h : TellsOption tells (v.member? name) o)
    (hd : ∀ v a, tells v a → v ≠ .null ∧ d v.node = .ok a) :
    v.Gives name (Decoder.option d) none o := by
  unfold Value.Gives
  cases hm : v.member? name with
  | none =>
      rw [hm] at h
      cases h
      rfl
  | some w =>
      rw [hm] at h
      cases h with
      | null => rfl
      | given h =>
          obtain ⟨hnull, hw⟩ := hd _ _ h
          have hoption : Decoder.option d w.node = (d w.node).map some := by
            cases w <;> first | rfl | exact absurd rfl hnull
          exact hoption.trans (by rw [hw]; rfl)

theorem Json.Value.IsRecord.ne_null (h : v.IsRecord) : v ≠ .null := by
  obtain ⟨l, rfl, -⟩ := h
  exact Value.noConfusion

theorem TellsText.option_gives {name : String} {o : Option String}
    (h : TellsOption TellsText (v.member? name) o) : v.Gives name ListedSite.text none o :=
  h.gives fun w s hw => ⟨by rw [TellsText] at hw; simp [hw], hw.decode_node⟩

theorem Json.Value.TellsTable.ne_null {tells : Value → α → Prop} {t : Table α}
    (h : v.TellsTable tells t) : v ≠ .null := by
  obtain ⟨l, m, rfl, -⟩ := h
  exact Value.noConfusion

theorem properties_node {d : Decoder (Table α)} {t : Table α} (hv : v.IsRecord)
    (h : v.Gives "properties" d .empty t) : properties d v.node = .ok t := by
  obtain ⟨found, hrecord, hfound⟩ :=
    Decoder.record_node hv (List.forall_mem_singleton.2 h.accepts) .text "Properties"
  rw [properties, hrecord]
  exact h.getD_eq (hfound _ List.mem_cons_self)

theorem TellsDetails.decode_node {details : Option String × Option String}
    (h : TellsDetails v details) : ListedSite.details v.node = .ok details := by
  have hplan := TellsText.option_gives h.plan
  have htime := TellsText.option_gives h.lastModified
  obtain ⟨found, hrecord, hfound⟩ := Decoder.record_node h.record
    (List.forall_mem_cons.2 ⟨hplan.accepts, List.forall_mem_singleton.2 htime.accepts⟩) .text
    "SiteProperties"
  obtain ⟨hfirst, hsecond, -⟩ := by simpa only [List.forall_mem_cons] using hfound
  rw [ListedSite.details, hrecord]
  simp only [bind, Except.bind, hplan.getD_eq hfirst, htime.getD_eq hsecond]
  rfl

theorem TellsSite.decode_node {s : ListedSite} (h : TellsSite v s) :
    ListedSite.decode v.node = .ok s := by
  obtain ⟨tags, htags, hs⟩ := h.tags
  obtain ⟨details, hdetails, hplan, htime⟩ := h.details
  have hname : v.Gives "name" Decoder.string "" s.name := by
    rw [Value.Gives, h.name]
    rfl
  have htags : v.Gives "tags" ListedSite.tags? none tags := htags.gives fun w t hw =>
    ⟨hw.ne_null, hw.decode_node fun _ _ => TellsText.decode_node⟩
  have hdetails : v.Gives "properties" (Decoder.option ListedSite.details) none details :=
    hdetails.gives fun w d hw => ⟨hw.record.ne_null, hw.decode_node⟩
  obtain ⟨found, hrecord, hfound⟩ := Decoder.record_node h.record (List.forall_mem_cons.2
    ⟨hname.accepts, List.forall_mem_cons.2 ⟨htags.accepts, List.forall_mem_singleton.2
      hdetails.accepts⟩⟩) .text "Site"
  obtain ⟨hfirst, hsecond, hthird, -⟩ := by simpa only [List.forall_mem_cons] using hfound
  rw [ListedSite.decode, hrecord]
  simp only [bind, Except.bind, hname.getD_eq hfirst, htags.getD_eq hsecond, hdetails.getD_eq hthird]
  rw [← hs, ← hplan, ← htime]
  rfl

theorem TellsNext.gives {name : String} {next : Option String}
    (h : TellsNext (v.member? name) next) :
    ∃ link, v.Gives name (Decoder.option Decoder.string) none link ∧
      (link.filter fun s => !s.isEmpty) = next := by
  unfold Value.Gives
  cases hm : v.member? name with
  | none =>
      rw [hm] at h
      cases h
      exact ⟨none, rfl, rfl⟩
  | some w =>
      rw [hm] at h
      cases h with
      | null => exact ⟨none, rfl, rfl⟩
      | empty => exact ⟨some "", rfl, rfl⟩
      | @link url h => exact ⟨some url, rfl, by simp [h]⟩

theorem TellsPage.decode_node {p : Page} (h : TellsPage v p) : Page.decode v.node = .ok p := by
  obtain ⟨w, hw, hlist⟩ := h.sites
  obtain ⟨link, hlink, hnext⟩ := h.next.gives
  have hsites : v.Gives "value" (Decoder.list ListedSite.decode) [] p.sites := by
    rw [Value.Gives, hw]
    exact hlist.decode_node fun _ _ => TellsSite.decode_node
  obtain ⟨found, hrecord, hfound⟩ := Decoder.record_node h.record
    (List.forall_mem_cons.2 ⟨hsites.accepts, List.forall_mem_singleton.2 hlink.accepts⟩) .text "Page"
  obtain ⟨hfirst, hsecond, -⟩ := by simpa only [List.forall_mem_cons] using hfound
  rw [Page.decode, hrecord]
  simp only [bind, Except.bind, hsites.getD_eq hfirst, hlink.getD_eq hsecond, hnext]
  rfl

theorem TellsProperties.decode_node {tells : Value → α → Prop} {d : Decoder α} {t : Table α}
    (h : TellsProperties tells v t) (hd : ∀ v a, tells v a → d v.node = .ok a) :
    WebAppTargets.properties (Decoder.table d) v.node = .ok t := by
  obtain ⟨w, hw, htable⟩ := h.properties
  have hgives : v.Gives "properties" (Decoder.table d) .empty t := by
    rw [Value.Gives, hw]
    exact htable.decode_node hd
  exact properties_node h.record hgives

theorem ConnectionKind.decode_text (k : ConnectionKind) :
    ConnectionKind.decode (Value.string k.text).node = .ok k := by
  cases k <;> rfl

theorem TellsConnection.decode_node {c : ConnectionString} (h : TellsConnection v c) :
    ConnectionString.decode v.node = .ok c := by
  have hvalue : v.Has "value" Decoder.string c.value := ⟨_, h.value, rfl⟩
  have hkind : v.Gives "type" ConnectionKind.decode .custom c.kind := by
    rw [Value.Gives]
    obtain hk | ⟨hk, hcustom⟩ := h.kind
    · rw [hk]
      exact c.kind.decode_text
    · rw [hk]
      exact hcustom
  obtain ⟨found, hrecord, hfound⟩ := Decoder.record_node h.record
    (List.forall_mem_cons.2 ⟨hvalue.accepts, List.forall_mem_singleton.2 hkind.accepts⟩) .text
    "ConnectionStringValue"
  obtain ⟨hfirst, hsecond, -⟩ := by simpa only [List.forall_mem_cons] using hfound
  rw [ConnectionString.decode, ConnectionString.fields, hrecord]
  simp only [bind, Except.bind, hvalue.get_eq hfirst, hkind.getD_eq hsecond]
  rfl

/-- Whatever the configuration holds is kept, which nothing nested deeper could be. -/
theorem SlotConfiguration.decode_node {l : List (String × Value)} (hv : v.IsRecord)
    (hl : v.member? "properties" = some (.ofFields l)) (hdepth : (Value.ofFields l).depth < maxDepth) :
    ∃ kept, SlotConfiguration.decode v.node = .ok ⟨Table.ofList kept⟩ ∧
      Forall₂ (fun e f => f.1 = e.1 ∧ e.2.KeptAs (maxDepth - 1 - 1) f.2) l kept := by
  have hdepth : (Fields.ofList l).depth ≤ maxDepth - 1 - 1 :=
    Nat.le_sub_one_of_lt (Nat.lt_sub_of_add_lt hdepth)
  obtain ⟨kept, hkept, hforall⟩ := (Fields.ofList l).fields_node hdepth
  rw [Fields.toList_ofList] at hforall
  have hgives : v.Gives "properties" (Decoder.object 1) .empty (Table.ofList kept) := by
    rw [Value.Gives, hl]
    change (faulted ((Fields.ofList l).node.fields (maxDepth - 1 - 1))).map Table.ofList = _
    rw [hkept]
    rfl
  refine ⟨kept, ?_, hforall⟩
  rw [SlotConfiguration.decode, properties_node hv hgives]
  rfl

theorem TellsConfiguration.decode_node (h : TellsConfiguration v) :
    ∃ c, SlotConfiguration.decode v.node = .ok c := by
  cases hv : v.member? "properties" with
  | none =>
      have hgives : v.Gives "properties" (Decoder.object 1) .empty .empty := by
        rw [Value.Gives, hv]
      exact ⟨⟨.empty⟩, by rw [SlotConfiguration.decode, properties_node h.record hgives]; rfl⟩
  | some w =>
      obtain ⟨l, rfl, hdepth⟩ := h.properties w hv
      obtain ⟨kept, hkept, -⟩ := SlotConfiguration.decode_node h.record hv hdepth
      exact ⟨_, hkept⟩

theorem TellsNames.decode_node {names : NameSet} (h : TellsNames v names) :
    ∃ c, SlotConfiguration.decode v.node = .ok c ∧ NameSet.ofList c.names = names := by
  obtain ⟨w, l, hw, ⟨m, rfl, hm⟩, hdepth, hnames, rfl⟩ := h.properties
  obtain ⟨kept, hkept, hforall⟩ := SlotConfiguration.decode_node h.record hw hdepth
  rw [Value.member?, Value.members_ofFields] at hnames
  obtain ⟨x, hx, hvalue⟩ := lookup_forall₂ hforall _ hnames
  obtain rfl := Except.ok.inj ((Value.keptAs_strings l _).symm.trans hvalue)
  have hkeys := keys_forall₂ hforall
  refine ⟨⟨Table.ofList kept⟩, hkept, ?_⟩
  rw [SlotConfiguration.names, SlotConfiguration.namesKey, Table.get?_ofList_of_nodup (hkeys ▸ hm), hx]
  change NameSet.ofList ((Values.ofList (l.map .string)).toList.filterMap _) = _
  rw [Values.toList_ofList, List.filterMap_map]
  exact congrArg _ List.filterMap_some

end Decode

end WebAppTargets
