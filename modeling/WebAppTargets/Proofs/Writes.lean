import WebAppTargets.Json.Writer
import WebAppTargets.Proofs.Answers
import WebAppTargets.Proofs.Course
import WebAppTargets.Proofs.MemoryRun

namespace WebAppTargets

open Json
open List (Forall₂)

def Call.isWrite : Call → Bool
  | .putAppSettings _ | .putSticky _ | .putConnections _ => true
  | _ => false

theorem SlotConfiguration.member?_withNames (c : SlotConfiguration) (names : NameSet) :
    (Value.ofTable (c.withNames names).members).member? "appSettingNames" =
      some (.ofItems (names.toList.map .string)) := by
  rw [Value.member?_ofTable]
  exact (Table.get?_insert _ _ _ _).trans (if_pos rfl)

namespace Reconcile

/-- A good answer in this step, when the service holds of the site what the memory client does. -/
def Step.Answered (m : Memory) (s : Site) (reply : Reply) : Step → Prop
  | .readValues => ∃ v, reply.Holds v ∧ TellsProperties TellsText v (m.appSettings s)
  | .readNames => ∃ v, reply.Holds v ∧ TellsNames v (m.sticky s)
  | .readConnections => ∃ v, reply.Holds v ∧ TellsProperties TellsConnection v (m.connections s)
  | st => reply.IsGood st.decoder

def AllAnswered (r : Rest) (m : Memory) (s : Site) (steps : List Step) : Prop :=
  ∀ (i : Nat) (st : Step), steps[i]? = some st →
    r.Reaches (st.address r s) ∧ st.Answered m s (r.reply i)

/-- A request of the one client that writes what the other holds after the call: settings and connection
strings in the order of their names, and no others beside them. -/
inductive Writes (r : Rest) (s : Site) (m : Memory) : Request → Call → Prop
  | values (body : Value) (hproperties : body.member? "properties" =
        some (.ofFields ((m.appSettings s).entries.map fun e => (e.1, .string e.2)))) :
      Writes r s m ⟨.put, Step.writeValues.address r s, r.token, some body⟩ (.putAppSettings s)
  | names (body properties : Value) (hproperties : body.member? "properties" = some properties)
      (hnames : properties.member? "appSettingNames" =
        some (.ofItems ((m.sticky s).toList.map .string))) :
      Writes r s m ⟨.put, Step.writeNames.address r s, r.token, some body⟩ (.putSticky s)
  | connections (body : Value) (hproperties : body.member? "properties" =
        some (.ofFields ((m.connections s).entries.map fun e =>
          (e.1, .ofFields [("value", .string e.2.value), ("type", .string e.2.kind.text)])))) :
      Writes r s m ⟨.put, Step.writeConnections.address r s, r.token, some body⟩ (.putConnections s)

open WebAppTargets.Action Rest

variable {r : Rest} {s : Site} {m : Memory} {turns sent : List Turn} {q : Except Error Unit}

section Answers

variable {reply : Reply}

theorem Step.Answered.read_values (h : Step.readValues.Answered m s reply) :
    reply.read AppSettings.decode = .ok (m.appSettings s) := by
  obtain ⟨v, hv, htells⟩ := h
  exact hv.read_eq (htells.decode_node fun _ _ => TellsText.decode_node)

theorem Step.Answered.read_connections (h : Step.readConnections.Answered m s reply) :
    reply.read ConnectionStrings.decode = .ok (m.connections s) := by
  obtain ⟨v, hv, htells⟩ := h
  exact hv.read_eq (htells.decode_node fun _ _ => TellsConnection.decode_node)

theorem Step.Answered.read_names (h : Step.readNames.Answered m s reply) :
    ∃ c, reply.read SlotConfiguration.decode = .ok c ∧ NameSet.ofList c.names = m.sticky s := by
  obtain ⟨v, hv, htells⟩ := h
  obtain ⟨c, hc, hnames⟩ := htells.decode_node
  exact ⟨c, hv.read_eq hc, hnames⟩

theorem Step.Answered.isGood {st : Step} (h : st.Answered m s reply) : reply.IsGood st.decoder := by
  cases st with
  | readValues => exact Reply.isGood_iff.2 ⟨_, h.read_values⟩
  | readNames => exact Reply.isGood_iff.2 (h.read_names.imp fun _ hc => hc.1)
  | readConnections => exact Reply.isGood_iff.2 ⟨_, h.read_connections⟩
  | writeValues | writeNames | writeConnections => exact h

end Answers

theorem Course.eq_finished (h : Course r s turns q sent)
    (hturn : ∀ (i : Nat) t, turns[i]? = some t →
      r.Reaches (t.step.address r s) ∧ (r.reply i).IsGood t.step.decoder) :
    q = .ok () ∧ sent = turns := by
  cases h with
  | finished => exact ⟨rfl, rfl⟩
  | refused before t after hturns _ hbad =>
      exact absurd (hturn before.length t (by simp [hturns])).2 hbad
  | unsent _ t after hturns _ hunreached =>
      exact absurd (hturn sent.length t (by simp [hturns])).1 hunreached

section Alike

variable {d : List AppSetting} {merged : Snapshot} {configuration : SlotConfiguration}

theorem settings_alike (hp : d.isEmpty = false → m.appSettings s = merged.properties)
    (hn : d.isEmpty = false → merged.sticky.isEmpty = false → m.sticky s = merged.sticky) :
    Forall₂ (Writes r s m)
      (((settingTurns d merged configuration).map (Turn.request r s)).filter fun q => q.method = .put)
      ((settingCalls s d !merged.sticky.isEmpty).filter Call.isWrite) := by
  cases hd : d.isEmpty with
  | true =>
      rw [settingTurns, settingCalls, if_pos hd, if_pos hd]
      exact .nil
  | false =>
      have hvalues : Writes r s m (Turn.request r s
          { step := .writeValues, body := AppSettings.json merged.properties }) (.putAppSettings s) := by
        refine .values _ ?_
        rw [hp hd]
        rfl
      have hd' : ¬d.isEmpty := by simp [hd]
      rw [settingTurns, settingCalls, if_neg hd', if_neg hd']
      cases he : merged.sticky.isEmpty with
      | true => exact .cons hvalues .nil
      | false =>
          have hnames : Writes r s m (Turn.request r s
              { step := .writeNames, body := (configuration.withNames merged.sticky).json })
              (.putSticky s) := by
            refine .names _ (.ofTable (configuration.withNames merged.sticky).members) rfl ?_
            rw [hn hd he]
            exact SlotConfiguration.member?_withNames configuration merged.sticky
          exact .cons hvalues (.cons hnames .nil)

theorem connections_alike {d : List ConnectionSetting} {connections : Table ConnectionString}
    (hc : d.isEmpty = false → m.connections s = connections) :
    Forall₂ (Writes r s m)
      (((connectionTurns d connections).map (Turn.request r s)).filter fun q => q.method = .put)
      ((connectionCalls s d).filter Call.isWrite) := by
  cases hd : d.isEmpty with
  | true =>
      rw [connectionTurns, connectionCalls, if_pos hd, if_pos hd]
      exact .nil
  | false =>
      have h : Writes r s m (Turn.request r s
          { step := .writeConnections, body := ConnectionStrings.json connections }) (.putConnections s) := by
        refine .connections _ ?_
        rw [hc hd]
        rfl
      have hd' : ¬d.isEmpty := by simp [hd]
      rw [connectionTurns, connectionCalls, if_neg hd', if_neg hd']
      exact .cons h .nil

end Alike

theorem mergedOf_eq {properties : Table String} {configuration : SlotConfiguration}
    (hp : properties = m.appSettings s) (hn : NameSet.ofList configuration.names = m.sticky s)
    (d : List AppSetting) : mergedOf properties configuration d = m.contents.merged s d := by
  have hentries : entriesOf properties configuration = m.settings s := by
    rw [entriesOf, hn, hp]
    rfl
  rw [mergedOf, hentries, merge_ofEntries_settings]

theorem connectionTurns_congr {d : List ConnectionSetting} {merged merged' : Table ConnectionString}
    (h : d.isEmpty = false → merged = merged') : connectionTurns d merged = connectionTurns d merged' := by
  cases hd : d.isEmpty with
  | true => rw [connectionTurns, connectionTurns, if_pos hd, if_pos hd]
  | false => rw [h hd]

theorem settingTurns_congr {d : List AppSetting} {merged merged' : Snapshot}
    (h : d.isEmpty = false → merged = merged') (configuration : SlotConfiguration) :
    settingTurns d merged configuration = settingTurns d merged' configuration := by
  cases hd : d.isEmpty with
  | true => rw [settingTurns, settingTurns, if_pos hd, if_pos hd]
  | false => rw [h hd]

theorem exists_says_of {α : Type} [Inhabited α] {d : Decoder α} {reply : Reply} {p : Prop}
    {P : α → Prop} (h : p → ∃ a, reply.read d = .ok a ∧ P a) :
    ∃ a, reply.Says d a ∧ (p → P a) := by
  by_cases hp : p
  · obtain ⟨a, ha, hPa⟩ := h hp
    exact ⟨a, fun b hb => Except.ok.inj (hb.symm.trans ha), fun _ => hPa⟩
  · obtain ⟨a, ha⟩ := Reply.exists_says d reply
    exact ⟨a, ha, fun h => absurd h hp⟩

theorem site_ends_of_answered (d : Desired) (hopen : r.isOpen) (hvalid : s.validate = .ok ())
    (hanswered : AllAnswered r m s
      (Step.order d !(m.contents.merged s d.appSettings).sticky.isEmpty)) :
    ∃ configuration, Ends r (site s d) (.ok ()) (r.after
      ((settingTurns d.appSettings (m.contents.merged s d.appSettings) configuration ++
        connectionTurns d.connections (mergeConnections (m.connections s) d.connections)).map
        (Turn.request r s))) := by
  obtain ⟨properties, hp, hproperties⟩ : ∃ t, (r.reply 0).Says AppSettings.decode t ∧
      (d.appSettings.isEmpty = false → t = m.appSettings s) :=
    exists_says_of fun hd =>
      ⟨_, (hanswered 0 .readValues (by simp [Step.order, hd])).2.read_values, rfl⟩
  obtain ⟨configuration, hc, hnames⟩ : ∃ c, (r.reply 1).Says SlotConfiguration.decode c ∧
      (d.appSettings.isEmpty = false → NameSet.ofList c.names = m.sticky s) :=
    exists_says_of fun hd => (hanswered 1 .readNames (by simp [Step.order, hd])).2.read_names
  obtain ⟨later, hl⟩ := Reply.exists_says SlotConfiguration.decode (r.reply 3)
  have hturns := settingTurns_congr
    (fun hd => mergedOf_eq (hproperties hd) (hnames hd) d.appSettings) later
  have horder := map_step_turns d (m.contents.merged s d.appSettings) later
  obtain ⟨stored, hs, hstored⟩ : ∃ t, (r.reply (settingTurns d.appSettings
      (m.contents.merged s d.appSettings) later).length).Says ConnectionStrings.decode t ∧
      (d.connections.isEmpty = false → t = m.connections s) :=
    exists_says_of fun hd => ⟨_, (hanswered _ .readConnections (by
      rw [← horder .empty]
      simp [connectionTurns, hd])).2.read_connections, rfl⟩
  obtain ⟨q, sent, hcourse, hends⟩ :=
    site_performs hopen hvalid d hp hc hl (by rw [hturns]; exact hs)
  obtain ⟨rfl, rfl⟩ := hcourse.eq_finished fun i t ht => by
    have hstep := hanswered i t.step (by
      rw [← horder (mergeConnections stored d.connections), List.getElem?_map, ← hturns, ht]
      rfl)
    exact ⟨hstep.1, hstep.2.isGood⟩
  have hconnections : connectionTurns d.connections (mergeConnections stored d.connections) =
      connectionTurns d.connections (mergeConnections (m.connections s) d.connections) :=
    connectionTurns_congr fun hd => by rw [hstored hd]
  rw [hturns, hconnections] at hends
  exact ⟨later, hends⟩

/-- On a service that tells what the memory client holds, a run of the REST client writes when that
client does, and the values that it then holds. -/
theorem site_writes_alike {w : World Rest} {v : World Memory} (d : Desired) (hopen : w.client.isOpen)
    (hvalid : s.validate = .ok ()) (hfaultless : v.client.Faultless)
    (hanswered : AllAnswered w.client v.client s (Step.order d
      !((Snapshot.ofEntries (v.client.settings s)).merge d.appSettings).sticky.isEmpty)) :
    (site s d w).1 = .ok () ∧ (site s d v).1 = .ok () ∧
      ∃ sent calls,
        (site s d w).2.client.network.received = w.client.network.received ++ sent ∧
        (site s d v).2.client.calls = v.client.calls ++ calls ∧
        Forall₂ (Writes w.client s (site s d v).2.client) (sent.filter fun q => q.method = .put)
          (calls.filter Call.isWrite) := by
  rw [merge_ofEntries_settings] at hanswered
  obtain ⟨configuration, hrest⟩ := site_ends_of_answered d hopen hvalid hanswered
  obtain ⟨hresult, hclient⟩ := hrest w rfl
  obtain ⟨hresult', hclient'⟩ := site_calls hfaultless s d v rfl
  refine ⟨hresult, hresult', _, _, congrArg (·.network.received) hclient,
    congrArg Memory.calls hclient', ?_⟩
  rw [List.map_append, List.filter_append, List.filter_append, hclient']
  let c := v.client.contents
  exact List.rel_append
    (settings_alike (c.appSettings_reconciled s) fun hd => c.sticky_reconciled s hd)
    (connections_alike fun _ => c.connections_reconciled s d)

section Witness

def blueSite : Site := ⟨"rg", "a", some "blue"⟩

def blueMemory : Memory :=
  ((({} : Memory).setAppSettings blueSite (.ofList [("X", "1")])).setSticky blueSite
    (.ofList ["X"])).setConnections blueSite (.ofList [("db", ⟨"old", .sqlAzure⟩)])

def blueDesired : Desired := ⟨[⟨"Z", "3", true⟩], [⟨"db", "new", .custom⟩]⟩

def valuesJson : Value := .ofFields [("properties", .ofFields [("X", .string "1")])]

def namesJson : Value :=
  .ofFields [("properties", .ofFields [("connectionStringNames", .ofItems [.string "db"]),
    ("appSettingNames", .ofItems (["X"].map .string))])]

def connectionsJson : Value :=
  .ofFields [("properties", .ofFields [("db", .ofFields [("type", .string "SQLAzure"),
    ("value", .string "old")])])]

def emptyJson : Value := .ofFields []

def blueClient : Rest :=
  .loopback ([valuesJson, namesJson, emptyJson, namesJson, emptyJson, connectionsJson, emptyJson].map
    fun v => ⟨200, v.text⟩)

theorem emptyJson_isGood {α : Type} {d : Decoder α} {a : α} (h : d emptyJson.node = .ok a) :
    (⟨200, emptyJson.text⟩ : Reply).IsGood d :=
  Reply.isGood_iff.2 ⟨a, (Renders.holds (by decide +kernel)).read_eq h⟩

set_option maxRecDepth 100000 in
theorem blueSite_reaches (replies : List Reply) (st : Step) :
    (loopback replies).Reaches (st.address (loopback replies) blueSite) := by
  apply loopback_reaches
  cases st <;>
    simp only [Step.address, siteAddress, webAppAddress, groupAddress, toString,
      String.toList_append, loopback] <;>
    decide +kernel

theorem blueClient_answers : AllAnswered blueClient blueMemory blueSite (Step.order blueDesired true) := by
  have hnodup (k : String) : [k].Nodup := List.nodup_singleton k
  have hrenders : ∀ v ∈ [valuesJson, namesJson, connectionsJson], Renders v.text v := by
    decide +kernel
  have hvalues : Step.readValues.Answered blueMemory blueSite ⟨200, valuesJson.text⟩ := by
    refine ⟨valuesJson, (hrenders _ (by simp)).holds, ⟨_, rfl, hnodup _⟩, _, rfl, ?_⟩
    exact ⟨_, [("X", "1")], rfl, .cons ⟨rfl, rfl⟩ .nil, rfl⟩
  have hnames : Step.readNames.Answered blueMemory blueSite ⟨200, namesJson.text⟩ :=
    ⟨namesJson, (hrenders _ (by simp)).holds, ⟨_, rfl, hnodup _⟩, _, ["X"], rfl,
      ⟨_, rfl, by decide⟩, by decide, rfl, rfl⟩
  have hconnections : Step.readConnections.Answered blueMemory blueSite ⟨200, connectionsJson.text⟩ := by
    refine ⟨connectionsJson, (hrenders _ (by simp)).holds, ⟨_, rfl, hnodup _⟩, _, rfl, ?_⟩
    refine ⟨_, [("db", ⟨"old", .sqlAzure⟩)], rfl, .cons ⟨rfl, ?_⟩ .nil, rfl⟩
    exact ⟨⟨_, rfl, by decide⟩, rfl, .inl rfl⟩
  intro i st hst
  refine ⟨blueSite_reaches _ st, ?_⟩
  match i, hst with
  | 0, rfl => exact hvalues
  | 1, rfl => exact hnames
  | 2, rfl => exact emptyJson_isGood rfl
  | 3, rfl => exact hnames
  | 4, rfl => exact emptyJson_isGood rfl
  | 5, rfl => exact hconnections
  | 6, rfl => exact emptyJson_isGood rfl

theorem site_writes_alike_blue :
    ∃ sent, (site blueSite blueDesired { client := blueClient }).2.client.network.received = sent ∧
      Forall₂ (Writes blueClient blueSite
          (site blueSite blueDesired { client := blueMemory }).2.client)
        (sent.filter fun q => q.method = .put)
        [.putAppSettings blueSite, .putSticky blueSite, .putConnections blueSite] := by
  obtain ⟨-, -, sent, calls, hsent, hcalls, hwrites⟩ := site_writes_alike (s := blueSite)
    (w := { client := blueClient }) (v := { client := blueMemory }) blueDesired rfl rfl
    ⟨rfl, rfl, rfl, rfl⟩ blueClient_answers
  have hcalls : calls = [.getAppSettings blueSite, .putAppSettings blueSite, .putSticky blueSite,
      .getConnections blueSite, .putConnections blueSite] := hcalls.symm
  rw [hcalls] at hwrites
  exact ⟨sent, hsent, hwrites⟩

end Witness

end Reconcile

end WebAppTargets
