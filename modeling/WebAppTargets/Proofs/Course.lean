import WebAppTargets.Proofs.Exchange
import WebAppTargets.Reconcile

namespace WebAppTargets

def Reply.Says {α : Type} (d : Json.Decoder α) (reply : Reply) (a : α) : Prop :=
  ∀ b, reply.read d = .ok b → b = a

theorem Reply.exists_says {α : Type} [Inhabited α] (d : Json.Decoder α) (reply : Reply) :
    ∃ a, reply.Says d a := by
  cases h : reply.read d with
  | error e => exact ⟨default, fun b hb => by rw [h] at hb; cases hb⟩
  | ok a => exact ⟨a, fun b hb => by rw [h] at hb; exact (Except.ok.inj hb).symm⟩

instance : Inhabited SlotConfiguration := ⟨⟨.empty⟩⟩

namespace Reconcile

inductive Step where
  | readValues | readNames | writeValues | writeNames | readConnections | writeConnections
  deriving DecidableEq

namespace Step

def method : Step → Method
  | .readValues | .readConnections => .post
  | .readNames => .get
  | .writeValues | .writeNames | .writeConnections => .put

/-- Values and connection strings are those of the site, names those of its web app. -/
def address (r : Rest) (s : Site) : Step → String
  | .readValues => r.siteAddress s ++ "/config/appsettings/list" ++ "?api-version=" ++ r.version
  | .writeValues => r.siteAddress s ++ "/config/appsettings" ++ "?api-version=" ++ r.version
  | .readNames | .writeNames =>
      r.webAppAddress s.resourceGroup s.webApp ++ "/config/slotConfigNames" ++ "?api-version=" ++ r.version
  | .readConnections => r.siteAddress s ++ "/config/connectionstrings/list" ++ "?api-version=" ++ r.version
  | .writeConnections => r.siteAddress s ++ "/config/connectionstrings" ++ "?api-version=" ++ r.version

def Content : Step → Type
  | .readValues | .writeValues => Table String
  | .readNames | .writeNames => SlotConfiguration
  | .readConnections | .writeConnections => Table ConnectionString

def decoder : (st : Step) → Json.Decoder st.Content
  | .readValues | .writeValues => AppSettings.decode
  | .readNames | .writeNames => SlotConfiguration.decode
  | .readConnections | .writeConnections => ConnectionStrings.decode

def operation : Step → String
  | .readValues => "get-settings"
  | .writeValues => "put-settings"
  | .readNames => "get-slot-settings"
  | .writeNames => "put-slot-settings"
  | .readConnections => "get-connection-strings"
  | .writeConnections => "put-connection-strings"

def failure (s : Site) (st : Step) (cause : Error) : Error := .operation "arm" st.operation s.text cause

def order (d : Desired) (hasSticky : Bool) : List Step :=
  (if d.appSettings.isEmpty then [] else
    [.readValues, .readNames, .writeValues] ++ if hasSticky then [.readNames, .writeNames] else []) ++
  if d.connections.isEmpty then [] else [.readConnections, .writeConnections]

end Step

def entriesOf (properties : Table String) (configuration : SlotConfiguration) : List AppSetting :=
  properties.entries.map fun e => ⟨e.1, e.2, (NameSet.ofList configuration.names).contains e.1⟩

def mergedOf (properties : Table String) (configuration : SlotConfiguration) (d : List AppSetting) :
    Snapshot :=
  (Snapshot.ofEntries (entriesOf properties configuration)).merge d

structure Turn where
  step : Step
  body : Option Json.Value := none

def Turn.request (r : Rest) (s : Site) (t : Turn) : Request :=
  ⟨t.step.method, t.step.address r s, r.token, t.body⟩

def AllGood (r : Rest) (turns : List Turn) : Prop :=
  ∀ i t, turns[i]? = some t → (r.reply i).IsGood t.step.decoder

/-- How a run of turns can go, and which of their requests the service receives: all of them, or those
up to the first reply that is not good, or those before a request that does not get through. -/
inductive Course (r : Rest) (s : Site) (turns : List Turn) : Except Error Unit → List Turn → Prop
  | finished (hgood : AllGood r turns) : Course r s turns (.ok ()) turns
  | refused (before : List Turn) (t : Turn) (after : List Turn)
      (hturns : turns = before ++ t :: after) (hgood : AllGood r before)
      (hbad : ¬(r.reply before.length).IsGood t.step.decoder) :
      Course r s turns (.error (t.step.failure s (r.reply before.length).fault)) (before ++ [t])
  | unsent (before : List Turn) (t : Turn) (after : List Turn)
      (hturns : turns = before ++ t :: after) (hgood : AllGood r before)
      (hreach : ¬r.Reaches (t.step.address r s)) (cause : Error) :
      Course r s turns (.error (t.step.failure s cause)) before

open WebAppTargets.Action Rest

variable {r : Rest} {s : Site} {turns more sent : List Turn} {q : Except Error Unit} {α β : Type}

theorem AllGood.nil : AllGood r [] := fun i t h => by simp at h

theorem AllGood.append (h : AllGood r turns)
    (hmore : AllGood (r.after (turns.map (Turn.request r s))) more) : AllGood r (turns ++ more) := by
  intro i t ht
  rcases Nat.lt_or_ge i turns.length with hi | hi
  · rw [List.getElem?_append_left hi] at ht
    exact h i t ht
  · rw [List.getElem?_append_right hi] at ht
    have hgood := hmore _ t ht
    rwa [reply_after, List.length_map, Nat.add_sub_cancel' hi] at hgood

theorem Course.append (h : AllGood r turns)
    (hmore : Course (r.after (turns.map (Turn.request r s))) s more q sent) :
    Course r s (turns ++ more) q (turns ++ sent) := by
  cases hmore with
  | finished hgood => exact .finished (h.append hgood)
  | refused before t after hturns hgood hbad =>
      rw [reply_after, List.length_map, ← List.length_append] at hbad ⊢
      rw [← List.append_assoc]
      exact .refused (turns ++ before) t after (by simp [hturns]) (h.append hgood) hbad
  | unsent _ t after hturns hgood hreach cause =>
      exact .unsent (turns ++ sent) t after (by simp [hturns]) (h.append hgood) hreach cause

theorem Course.append_right {e : Error} (h : Course r s turns (.error e) sent) (more : List Turn) :
    Course r s (turns ++ more) (.error e) sent := by
  cases h with
  | refused before t after hturns hgood hbad =>
      exact .refused before t (after ++ more) (by simp [hturns]) hgood hbad
  | unsent _ t after hturns hgood hreach cause =>
      exact .unsent sent t (after ++ more) (by simp [hturns]) hgood hreach cause

theorem Course.length_le {n : Nat} (h : Course r s turns q sent)
    (hfailure : (r.reply n).isSuccess = false) : sent.length ≤ n + 1 := by
  have hshort {l : List Turn} (hgood : AllGood r l) : l.length ≤ n := by
    by_contra hn
    have hsuccess := (hgood n _ (List.getElem?_eq_getElem (Nat.lt_of_not_le hn))).1
    rw [hfailure] at hsuccess
    cases hsuccess
  cases h with
  | finished hgood => exact Nat.le_succ_of_le (hshort hgood)
  | refused before t after hturns hgood hbad => simpa using hshort hgood
  | unsent _ t after hturns hgood hreach cause => exact Nat.le_succ_of_le (hshort hgood)

/-- The action is made of these turns, and gives `a` when all of them go well. -/
def Performs (r : Rest) (s : Site) (x : Action Rest α) (turns : List Turn) (a : α) : Prop :=
  ∃ q sent, Course r s turns q sent ∧
    Ends r x (q.map fun _ => a) (r.after (sent.map (Turn.request r s)))

namespace Performs

variable {x : Action Rest α} {f : α → Action Rest β} {a : α} {b : β}

theorem of_ends (h : Ends r x (.ok a) r) : Performs r s x [] a :=
  ⟨.ok (), [], .finished .nil, by rwa [List.map_nil, after_nil]⟩

theorem bind (hx : Performs r s x turns a)
    (hf : AllGood r turns →
      Performs (r.after (turns.map (Turn.request r s))) s (f a) more b) :
    Performs r s (x >>= f) (turns ++ more) b := by
  obtain ⟨q, sent, hcourse, hends⟩ := hx
  cases q with
  | error e => exact ⟨_, _, hcourse.append_right more, hends.bind_error⟩
  | ok u =>
      cases hcourse with
      | finished hgood =>
          obtain ⟨q, sent, hcourse, hends'⟩ := hf hgood
          rw [after_after] at hends'
          exact ⟨q, _, hcourse.append hgood, by rw [List.map_append]; exact hends.bind hends'⟩

theorem bind_cons {t : Turn} (hx : Performs r s x [t] a)
    (hf : AllGood r [t] → Performs (r.after [t.request r s]) s (f a) more b) :
    Performs r s (x >>= f) (t :: more) b :=
  hx.bind hf

theorem bind_left (hx : Ends r x (.ok a) r) (hf : Performs r s (f a) turns b) :
    Performs r s (x >>= f) turns b := by
  obtain ⟨q, sent, hcourse, hends⟩ := hf
  exact ⟨q, sent, hcourse, hx.bind hends⟩

theorem bind_right (hx : Performs r s x turns a) (hf : ∀ r, Ends r (f a) (.ok b) r) :
    Performs r s (x >>= f) turns b := by
  have h := hx.bind fun _ => of_ends (s := s) (hf (r.after (turns.map (Turn.request r s))))
  rwa [List.append_nil] at h

end Performs

structure Asks (r : Rest) (s : Site) (t : Turn) (x : Action Rest t.step.Content) : Prop where
  reached : r.Reaches (t.step.address r s) →
    Ends r x ((r.reply 0).read t.step.decoder) (r.after [t.request r s])
  unreached : ¬r.Reaches (t.step.address r s) → ∃ e, Ends r x (.error e) r

section Asks

variable {t : Turn} {x : Action Rest t.step.Content} {a : t.step.Content}

theorem asks_request (hopen : r.isOpen) (s : Site) (t : Turn) :
    Asks r s t (request t.step.decoder t.step.method (t.step.address r s) t.body) where
  reached := request_ends hopen _ _ _
  unreached h := by
    obtain ⟨_, hends⟩ := request_ends_of_not_reaches hopen _ _ _ h
    exact ⟨_, hends⟩

theorem Asks.bind_left {y : Action Rest β} {f : β → Action Rest t.step.Content} {b : β}
    (hy : Ends r y (.ok b) r) (hf : Asks r s t (f b)) : Asks r s t (y >>= f) where
  reached h := hy.bind (hf.reached h)
  unreached h := (hf.unreached h).imp fun _ he => hy.bind he

theorem Asks.performs (h : Asks r s t x) (ha : (r.reply 0).Says t.step.decoder a) :
    Performs r s (during t.step.operation s.text x) [t] a := by
  by_cases hreach : r.Reaches (t.step.address r s)
  · have hx := (h.reached hreach).inContext (t.step.failure s)
    by_cases hgood : (r.reply 0).IsGood t.step.decoder
    · obtain ⟨b, hb⟩ := Reply.isGood_iff.1 hgood
      rw [hb, ha b hb] at hx
      refine ⟨.ok (), [t], .finished ?_, hx⟩
      intro i u hu
      obtain ⟨rfl, rfl⟩ : i = 0 ∧ u = t := by cases i <;> simp_all
      exact hgood
    · rw [Reply.read_of_not_isGood hgood] at hx
      exact ⟨_, [t], .refused [] t [] rfl .nil hgood, hx⟩
  · obtain ⟨e, he⟩ := h.unreached hreach
    refine ⟨_, [], .unsent [] t [] rfl .nil hreach e, ?_⟩
    rw [List.map_nil, after_nil]
    exact he.inContext (t.step.failure s)

end Asks

section Operations

variable (hopen : r.isOpen) (hvalid : s.validate = .ok ())

include hopen hvalid

theorem slotConfiguration_asks : Asks r s { step := .readNames } (slotConfiguration s) := by
  obtain ⟨hgroup, happ, -⟩ := Site.validate_eq_ok_iff.1 hvalid
  exact .bind_left (locate_ends (webAppUrl_eq r hgroup happ) _) (asks_request hopen s _)

theorem getAppSettings_performs {properties : Table String} {configuration : SlotConfiguration}
    (hp : (r.reply 0).Says AppSettings.decode properties)
    (hc : (r.reply 1).Says SlotConfiguration.decode configuration) :
    Performs r s (Client.getAppSettings s) [{ step := .readValues }, { step := .readNames }]
      (entriesOf properties configuration) := by
  refine .bind_left (locate_ends (siteUrl_eq r hvalid) _) ?_
  refine .bind_cons ((asks_request hopen s { step := .readValues }).performs hp) fun _ => ?_
  have hnames := slotConfiguration_asks (r := r.after [Turn.request r s { step := .readValues }])
    hopen hvalid
  exact (hnames.performs (by rw [reply_after]; exact hc)).bind_right fun r => Ends.value r _

theorem putAppSettings_performs (properties : Table String) :
    Performs r s (Client.putAppSettings s properties)
      [{ step := .writeValues, body := AppSettings.json properties }] () := by
  obtain ⟨a, ha⟩ := Reply.exists_says AppSettings.decode (r.reply 0)
  refine .bind_left (locate_ends (siteUrl_eq r hvalid) _) ?_
  exact ((asks_request hopen s { step := .writeValues, body := _ }).performs ha).bind_right
    fun r => Ends.value r ()

theorem putSticky_performs {configuration : SlotConfiguration}
    (hc : (r.reply 0).Says SlotConfiguration.decode configuration) (names : NameSet) :
    Performs r s (Client.putSticky s names) [{ step := .readNames },
      { step := .writeNames, body := (configuration.withNames names).json }] () := by
  obtain ⟨hgroup, happ, -⟩ := Site.validate_eq_ok_iff.1 hvalid
  refine .bind_cons ((slotConfiguration_asks hopen hvalid).performs hc) fun _ => ?_
  refine .bind_left (locate_ends (webAppUrl_eq _ hgroup happ) _) ?_
  obtain ⟨a, ha⟩ := Reply.exists_says SlotConfiguration.decode
    ((r.after [Turn.request r s { step := .readNames }]).reply 0)
  exact ((asks_request (r := r.after _) hopen s { step := .writeNames, body := _ }).performs
    ha).bind_right fun r => Ends.value r ()

theorem getConnections_performs {connections : Table ConnectionString}
    (hc : (r.reply 0).Says ConnectionStrings.decode connections) :
    Performs r s (Client.getConnections s) [{ step := .readConnections }] connections :=
  .bind_left (locate_ends (siteUrl_eq r hvalid) _)
    ((asks_request hopen s { step := .readConnections }).performs hc)

theorem putConnections_performs (connections : Table ConnectionString) :
    Performs r s (Client.putConnections s connections)
      [{ step := .writeConnections, body := ConnectionStrings.json connections }] () := by
  obtain ⟨a, ha⟩ := Reply.exists_says ConnectionStrings.decode (r.reply 0)
  refine .bind_left (locate_ends (siteUrl_eq r hvalid) _) ?_
  exact ((asks_request hopen s { step := .writeConnections, body := _ }).performs ha).bind_right
    fun r => Ends.value r ()

end Operations

/-- The turns that bring app settings to a merged state. The configuration is the one read right before
the names are written. -/
def settingTurns (d : List AppSetting) (merged : Snapshot) (configuration : SlotConfiguration) :
    List Turn :=
  if d.isEmpty then [] else
    [{ step := .readValues }, { step := .readNames }] ++
      { step := .writeValues, body := AppSettings.json merged.properties } ::
        if merged.sticky.isEmpty then [] else [{ step := .readNames },
          { step := .writeNames, body := (configuration.withNames merged.sticky).json }]

def connectionTurns (d : List ConnectionSetting) (merged : Table ConnectionString) : List Turn :=
  if d.isEmpty then [] else
    [{ step := .readConnections },
      { step := .writeConnections, body := ConnectionStrings.json merged }]

theorem map_step_turns (d : Desired) (merged : Snapshot) (configuration : SlotConfiguration)
    (connections : Table ConnectionString) :
    (settingTurns d.appSettings merged configuration ++
      connectionTurns d.connections connections).map Turn.step =
      Step.order d !merged.sticky.isEmpty := by
  unfold settingTurns connectionTurns Step.order
  cases d.appSettings.isEmpty <;> cases merged.sticky.isEmpty <;> cases d.connections.isEmpty <;> rfl

section Run

variable (hopen : r.isOpen) (hvalid : s.validate = .ok ())

include hopen hvalid

theorem writeSticky_performs {configuration : SlotConfiguration}
    (hc : (r.reply 0).Says SlotConfiguration.decode configuration) (names : NameSet) :
    Performs r s (writeSticky s names) (if names.isEmpty then [] else [{ step := .readNames },
      { step := .writeNames, body := (configuration.withNames names).json }]) () := by
  unfold writeSticky
  split
  · exact .of_ends (Ends.emit r _)
  · exact .bind_left (Ends.write r _ _) (putSticky_performs hopen hvalid hc names)

theorem appSettings_performs {properties : Table String} {configuration later : SlotConfiguration}
    (hp : (r.reply 0).Says AppSettings.decode properties)
    (hc : (r.reply 1).Says SlotConfiguration.decode configuration)
    (hl : (r.reply 3).Says SlotConfiguration.decode later) (d : List AppSetting) :
    Performs r s (appSettings s d) (settingTurns d (mergedOf properties configuration d) later)
      (if d.isEmpty then none else some (mergedOf properties configuration d)) := by
  cases hd : d.isEmpty with
  | true =>
      rw [appSettings, settingTurns, if_pos hd, if_pos hd]
      exact .of_ends (Ends.value r none)
  | false =>
      rw [appSettings, settingTurns, if_neg (by simp [hd]), if_neg (by simp [hd])]
      refine .bind (getAppSettings_performs hopen hvalid hp hc) fun _ => ?_
      refine .bind_left (Ends.write _ _ _) ?_
      refine .bind_cons (putAppSettings_performs (r := r.after _) hopen hvalid _) fun _ => ?_
      refine .bind_right (writeSticky_performs (r := (r.after _).after _) hopen hvalid ?_ _) fun r =>
        (Ends.emit r _).bind (Ends.value r _)
      rw [after_after, reply_after]
      exact hl

theorem connections_performs {stored : Table ConnectionString}
    (hc : (r.reply 0).Says ConnectionStrings.decode stored) (d : List ConnectionSetting) :
    Performs r s (connections s d) (connectionTurns d (mergeConnections stored d))
      (if d.isEmpty then none else some (mergeConnections stored d)) := by
  cases hd : d.isEmpty with
  | true =>
      rw [connections, connectionTurns, if_pos hd, if_pos hd]
      exact .of_ends (Ends.value r none)
  | false =>
      rw [connections, connectionTurns, if_neg (by simp [hd]), if_neg (by simp [hd])]
      refine .bind_cons (getConnections_performs hopen hvalid hc) fun _ => ?_
      refine .bind_left (Ends.write _ _ _) ?_
      exact .bind_right (putConnections_performs (r := r.after _) hopen hvalid _) fun r =>
        (Ends.emit r _).bind (Ends.value r _)

theorem site_performs {properties : Table String} {configuration later : SlotConfiguration}
    {stored : Table ConnectionString} (d : Desired)
    (hp : (r.reply 0).Says AppSettings.decode properties)
    (hc : (r.reply 1).Says SlotConfiguration.decode configuration)
    (hl : (r.reply 3).Says SlotConfiguration.decode later)
    (hs : (r.reply (settingTurns d.appSettings (mergedOf properties configuration d.appSettings)
      later).length).Says ConnectionStrings.decode stored) :
    Performs r s (site s d)
      (settingTurns d.appSettings (mergedOf properties configuration d.appSettings) later ++
        connectionTurns d.connections (mergeConnections stored d.connections)) () := by
  refine .bind (appSettings_performs hopen hvalid hp hc hl d.appSettings) fun _ => ?_
  refine .bind_right (connections_performs (r := r.after _) hopen hvalid ?_ d.connections) fun r =>
    Ends.value r ()
  rw [reply_after, List.length_map]
  exact hs

end Run

/-- On an open client a run follows the order, whatever the replies are. There is a step for the sticky
names if the merge of what the first two replies say leaves any. -/
theorem site_asks_in_order {w : World Rest} (d : Desired) (hopen : w.client.isOpen)
    (hvalid : s.validate = .ok ()) :
    ∃ hasSticky turns sent,
      turns.map Turn.step = Step.order d hasSticky ∧
      (∀ properties configuration,
        (w.client.reply 0).read AppSettings.decode = .ok properties →
        (w.client.reply 1).read SlotConfiguration.decode = .ok configuration →
        hasSticky = !(mergedOf properties configuration d.appSettings).sticky.isEmpty) ∧
      Course w.client s turns (site s d w).1 sent ∧
      (site s d w).2.client.network.received =
        w.client.network.received ++ sent.map (Turn.request w.client s) := by
  obtain ⟨properties, hp⟩ := Reply.exists_says AppSettings.decode (w.client.reply 0)
  obtain ⟨configuration, hc⟩ := Reply.exists_says SlotConfiguration.decode (w.client.reply 1)
  obtain ⟨later, hl⟩ := Reply.exists_says SlotConfiguration.decode (w.client.reply 3)
  obtain ⟨stored, hs⟩ := Reply.exists_says ConnectionStrings.decode
    (w.client.reply (settingTurns d.appSettings (mergedOf properties configuration d.appSettings)
      later).length)
  obtain ⟨q, sent, hcourse, hends⟩ := site_performs hopen hvalid d hp hc hl hs
  obtain ⟨hresult, hclient⟩ := hends w rfl
  have hq : (q.map fun _ => ()) = q := by cases q <;> rfl
  rw [← hq, ← hresult] at hcourse
  refine ⟨_, _, sent, map_step_turns d _ _ _, ?_, hcourse, congrArg (·.network.received) hclient⟩
  intro p c hp' hc'
  rw [hp p hp', hc c hc']

def failingClient : Rest :=
  .loopback [⟨200, "\x7b\"properties\":\x7b\"X\":\"1\"\x7d\x7d"⟩, ⟨500, "down"⟩]

theorem site_asks_in_order_failing :
    ∃ hasSticky turns sent,
      turns.map Turn.step = Step.order ⟨[⟨"Z", "3", true⟩], []⟩ hasSticky ∧
      Course failingClient ⟨"rg", "my-app", none⟩ turns
        (site ⟨"rg", "my-app", none⟩ ⟨[⟨"Z", "3", true⟩], []⟩ { client := failingClient }).1 sent ∧
      sent.length ≤ 2 := by
  obtain ⟨hasSticky, turns, sent, horder, -, hcourse, -⟩ :=
    site_asks_in_order (s := ⟨"rg", "my-app", none⟩) (w := { client := failingClient })
      ⟨[⟨"Z", "3", true⟩], []⟩ rfl rfl
  exact ⟨hasSticky, turns, sent, horder, hcourse, hcourse.length_le (n := 1) rfl⟩

end Reconcile

end WebAppTargets
