import WebAppTargets.Json.Writer
import WebAppTargets.Proofs.Lowering

namespace WebAppTargets

open Json

namespace Json.Value

/-- Each member of the object `written` is in `v` once, under its name in some case and with a value
that says the same; or it is not in `v`, if it can be spared. Other members of `v` do not count. -/
structure Restates (same : Value → Value → Prop) (spare : Value → Prop) (written v : Value) : Prop where
  object : ∃ l, v = .ofFields l
  members : ∀ e ∈ written.members,
    (∃ f, v.named e.1 = [f] ∧ same e.2 f.2) ∨ (v.named e.1 = [] ∧ spare e.2)

/-- No two members have one name in lower case. -/
def HasDistinctNames (v : Value) : Prop := (v.members.map fun e => Text.lowercase e.1).Nodup

theorem HasDistinctNames.named_eq {v : Value} (hv : v.HasDistinctNames) {e : String × Value}
    (he : e ∈ v.members) : v.named e.1 = [e] := by
  rw [HasDistinctNames] at hv
  rw [named]
  generalize v.members = l at hv he
  induction l with
  | nil => cases he
  | cons d l ih =>
      obtain ⟨hd, hl⟩ := List.nodup_cons.1 hv
      rcases List.mem_cons.1 he with rfl | he
      · rw [List.filter_cons, if_pos (decide_eq_true rfl), List.filter_eq_nil_iff.2]
        exact fun f hf hfe => hd (List.mem_map.2 ⟨f, hf, of_decide_eq_true hfe⟩)
      · rw [List.filter_cons, if_neg, ih hl he]
        exact fun hde => hd (List.mem_map.2 ⟨e, he, (of_decide_eq_true hde).symm⟩)

theorem HasDistinctNames.restates_self {same : Value → Value → Prop} {spare : Value → Prop} {v : Value}
    (hv : v.HasDistinctNames) (hobject : ∃ l, v = .ofFields l) (hsame : ∀ x, same x x) :
    Restates same spare v v :=
  ⟨hobject, fun e he => .inl ⟨e, hv.named_eq he, hsame e.2⟩⟩

theorem ofItems_injective {l m : List Value} (h : ofItems l = ofItems m) : l = m := by
  have h := congrArg Values.toList (Value.array.inj h)
  rwa [Values.toList_ofList, Values.toList_ofList] at h

/-- Lists of the same names, in any order and however often. -/
def SameNames (v w : Value) : Prop :=
  ∃ l m : List String, v = .ofItems (l.map .string) ∧ w = .ofItems (m.map .string) ∧
    ∀ n, n ∈ m ↔ n ∈ l

end Json.Value

open Json.Value

def Account.RestatedBy (a : Account) (v : Value) : Prop :=
  Restates (fun x w => w = x) (fun x => x = .string "") a.json v

def Scope.RestatedBy (s : Scope) (v : Value) : Prop :=
  Restates (fun x w => w = x ∨ SameNames x w) (fun x => x = .null) s.json v

/-- The value is an object with one scope and one account, which say what those of the context do. -/
structure Context.RestatedBy (c : Context) (v : Value) : Prop where
  object : ∃ l, v = .ofFields l
  scope : ∃ f, v.named "scope" = [f] ∧ c.scope.RestatedBy f.2
  account : ∃ f, v.named "account" = [f] ∧ c.account.RestatedBy f.2

namespace Account

variable {a : Account} {v u : Value}

theorem caseless : Caseless fields := ⟨by decide, by decide⟩

def texts (a : Account) : List (String × String) :=
  [("subscriptionNumber", a.subscription), ("clientId", a.client), ("tenantId", a.tenant),
   ("password", a.password), ("azureEnvironment", a.environment),
   ("resourceManagementEndpointBaseUri", a.managementOverride),
   ("activeDirectoryEndpointBaseUri", a.directoryOverride)]

theorem mem_members_json {e : String × String} (h : e ∈ a.texts) :
    (e.1, Value.string e.2) ∈ a.json.members := by
  have hmembers : a.json.members = a.texts.map fun e => (e.1, .string e.2) := rfl
  rw [hmembers]
  exact List.mem_map_of_mem h

theorem hasDistinctNames_json (a : Account) : a.json.HasDistinctNames := caseless.nodup

theorem restatedBy_json (a : Account) : a.RestatedBy a.json :=
  a.hasDistinctNames_json.restates_self ⟨_, rfl⟩ fun _ => rfl

theorem RestatedBy.gives (h : a.RestatedBy v) (hu : v.LoweredObject u) :
    ∀ e ∈ a.texts, u.Gives (Text.lowercase e.1) Decoder.string "" e.2 := by
  intro e he
  rw [Value.Gives]
  rcases h.members _ (mem_members_json he) with ⟨f, hf, hsame⟩ | ⟨hmissing, hspare⟩
  · obtain ⟨x, hx, hlowered⟩ := hu.given _ f hf
    rw [hsame] at hlowered
    rw [hx, hlowered.string]
    rfl
  · rw [hu.missing _ hmissing]
    exact Value.string.inj hspare

theorem RestatedBy.decode_eq (h : a.RestatedBy v) (hu : v.Lowered u) (source : Source) :
    decode source u.node = .ok a := by
  obtain ⟨l, rfl⟩ := h.object
  have hgives := h.gives hu.object
  have haccepts : ∀ f ∈ fields, f.AcceptsAt (Text.lowercase f.name) u := by
    obtain ⟨h₁, h₂, h₃, h₄, h₅, h₆, h₇, -⟩ := by
      simpa only [texts, List.forall_mem_cons] using hgives
    simp only [fields, List.forall_mem_cons]
    exact ⟨h₁.acceptsAt _, h₂.acceptsAt _, h₃.acceptsAt _, h₄.acceptsAt _, h₅.acceptsAt _,
      h₆.acceptsAt _, h₇.acceptsAt _, by simp⟩
  obtain ⟨found, hrecord, hfound⟩ := Decoder.record_spelled hu.object.record
    (caseless.spelledAt hu.object.lowered) haccepts source "AccountCredentials"
  have hget : ∀ e ∈ a.texts, found.getD e.1 Decoder.string "" = .ok e.2 := by
    have hnames : ∀ e ∈ a.texts, ∃ f ∈ fields, f.name = e.1 := by
      simp [texts, fields, Field.defaulted]
    intro e he
    obtain ⟨f, hf, hname⟩ := hnames e he
    exact (hgives e he).getD_eq_at (hname ▸ hfound f hf)
  obtain ⟨h₁, h₂, h₃, h₄, h₅, h₆, h₇, -⟩ := by simpa only [texts, List.forall_mem_cons] using hget
  rw [decode, hrecord]
  simp only [bind, Except.bind, h₁, h₂, h₃, h₄, h₅, h₆, h₇]
  rfl

end Account

namespace Scope

variable {s : Scope} {v u : Value}

theorem caseless : Caseless fields := ⟨by decide, by decide⟩

theorem hasDistinctNames_json (s : Scope) : s.json.HasDistinctNames := caseless.nodup

theorem restatedBy_json (s : Scope) : s.RestatedBy s.json :=
  s.hasDistinctNames_json.restates_self ⟨_, rfl⟩ fun _ => .inl rfl

theorem RestatedBy.scalar (h : s.RestatedBy v) (hu : v.LoweredObject u) {name : String} {x : Value}
    (hmem : (name, x) ∈ s.json.members) (hx : ∀ l, x ≠ .ofItems l) :
    (∃ y, u.member? (Text.lowercase name) = some y ∧ x.Lowered y) ∨
      (u.member? (Text.lowercase name) = none ∧ x = .null) := by
  rcases h.members _ hmem with ⟨f, hf, hsame | ⟨l, -, hl, -⟩⟩ | ⟨hmissing, hspare⟩
  · obtain ⟨y, hy, hlowered⟩ := hu.given _ f hf
    rw [hsame] at hlowered
    exact .inl ⟨y, hy, hlowered⟩
  · exact absurd hl (hx _)
  · exact .inr ⟨hu.missing _ hmissing, hspare⟩

theorem RestatedBy.has_string (h : s.RestatedBy v) (hu : v.LoweredObject u) {name t : String}
    (hmem : (name, Value.string t) ∈ s.json.members) :
    u.Has (Text.lowercase name) Decoder.string t := by
  rcases h.scalar hu hmem (fun _ => Value.noConfusion) with ⟨y, hy, hlowered⟩ | ⟨-, ⟨⟩⟩
  exact ⟨y, hy, by rw [hlowered.string]; rfl⟩

theorem RestatedBy.gives_tenant (h : s.RestatedBy v) (hu : v.LoweredObject u) :
    u.Gives (Text.lowercase "tenantId") (Decoder.option Decoder.string) none s.tenant := by
  have hmem : ("tenantId", .ofOption s.tenant) ∈ s.json.members := by simp [json]
  rw [Value.Gives]
  cases ht : s.tenant with
  | none =>
      rw [ht] at hmem
      rcases h.scalar hu hmem (fun _ => Value.noConfusion) with ⟨y, hy, hlowered⟩ | ⟨hmissing, -⟩
      · rw [hy, hlowered.null]
        rfl
      · rw [hmissing]
  | some t =>
      rw [ht] at hmem
      rcases h.scalar hu hmem (fun _ => Value.noConfusion) with ⟨y, hy, hlowered⟩ | ⟨-, ⟨⟩⟩
      rw [hy, hlowered.string]
      rfl

theorem RestatedBy.roles (h : s.RestatedBy v) :
    ∃ f, v.named "roles" = [f] ∧ ∃ m : List String, f.2 = .ofItems (m.map .string) ∧
      NameSet.ofList m = s.roles := by
  have hset {m : List String} (hm : ∀ n, n ∈ m ↔ n ∈ s.roles.toList) : NameSet.ofList m = s.roles :=
    NameSet.ext_contains fun n => by rw [NameSet.contains_ofList, hm, NameSet.mem_toList]
  have hmem : ("roles", Value.ofItems (s.roles.toList.map .string)) ∈ s.json.members := by simp [json]
  rcases h.members _ hmem with ⟨f, hf, hsame | ⟨l, m, hl, hm, hlm⟩⟩ | ⟨-, ⟨⟩⟩
  · exact ⟨f, hf, _, hsame, hset fun n => Iff.rfl⟩
  · have hroles : s.roles.toList = l :=
      (List.map_inj_right fun _ _ => Value.string.inj).1 (ofItems_injective hl)
    exact ⟨f, hf, m, hm, hset (hroles ▸ hlm)⟩

theorem RestatedBy.has_roles (h : s.RestatedBy v) (hu : v.LoweredObject u) :
    u.Has (Text.lowercase "roles") Decoder.names s.roles := by
  obtain ⟨f, hf, m, hm, hset⟩ := h.roles
  obtain ⟨y, hy, hlowered⟩ := hu.given _ f hf
  rw [hm] at hlowered
  have htells : (Value.ofItems (m.map .string)).TellsList (fun v n => v = .string n) m :=
    ⟨_, rfl, List.forall₂_map_left_iff.2 (List.forall₂_same.2 fun _ _ => rfl)⟩
  have hlist := htells.decode_node (d := Decoder.string) (by rintro _ n rfl; rfl)
  exact ⟨y, hy, by rw [hlowered.strings, Decoder.names, hlist, ← hset]; rfl⟩

theorem RestatedBy.decode_eq (h : s.RestatedBy v) (hu : v.Lowered u) (source : Source) :
    decode source u.node = .ok s := by
  obtain ⟨l, rfl⟩ := h.object
  have hstrings : ∀ e ∈ [("spaceId", s.space), ("environmentId", s.environment),
      ("projectId", s.project)], u.Has (Text.lowercase e.1) Decoder.string e.2 := by
    have hmem : ∀ e ∈ [("spaceId", s.space), ("environmentId", s.environment),
        ("projectId", s.project)], (e.1, Value.string e.2) ∈ s.json.members := by simp [json]
    exact fun e he => h.has_string hu.object (hmem e he)
  have htenant := h.gives_tenant hu.object
  have hroles := h.has_roles hu.object
  obtain ⟨hspace, henvironment, hproject, -⟩ := by
    simpa only [List.forall_mem_cons] using hstrings
  have haccepts : ∀ f ∈ fields, f.AcceptsAt (Text.lowercase f.name) u := by
    simp only [fields, List.forall_mem_cons]
    exact ⟨hspace.acceptsAt _, henvironment.acceptsAt _, hproject.acceptsAt _, htenant.acceptsAt _,
      hroles.acceptsAt _, by simp⟩
  obtain ⟨found, hrecord, hfound⟩ := Decoder.record_spelled hu.object.record
    (caseless.spelledAt hu.object.lowered) haccepts source "DiscoveryScope"
  obtain ⟨h₁, h₂, h₃, h₄, h₅, -⟩ := by simpa only [fields, List.forall_mem_cons] using hfound
  have h₁ : found.get "spaceId" Decoder.string = .ok s.space := hspace.get_eq_at h₁
  have h₂ : found.get "environmentId" Decoder.string = .ok s.environment := henvironment.get_eq_at h₂
  have h₃ : found.get "projectId" Decoder.string = .ok s.project := hproject.get_eq_at h₃
  have h₄ : found.getD "tenantId" (Decoder.option Decoder.string) none = .ok s.tenant :=
    htenant.getD_eq_at h₄
  have h₅ : found.get "roles" Decoder.names = .ok s.roles := hroles.get_eq_at h₅
  rw [decode, hrecord]
  simp only [bind, Except.bind, h₁, h₂, h₃, h₄, h₅]
  rfl

end Scope

namespace Context

variable {c : Context} {v u w : Value}

theorem caseless (source : Source) : Caseless (fields source) := by
  cases source <;> exact ⟨by decide, by decide⟩

theorem RestatedBy.decode_eq (h : c.RestatedBy v) (hu : v.Lowered u) (source : Source) :
    decode source u.node = .ok c := by
  obtain ⟨l, rfl⟩ := h.object
  obtain ⟨e, he, hscope⟩ := h.scope
  obtain ⟨f, hf, haccount⟩ := h.account
  obtain ⟨x, hx, hxlowered⟩ := hu.object.given _ e he
  obtain ⟨y, hy, hylowered⟩ := hu.object.given _ f hf
  have hscope : u.Has (Text.lowercase "scope") (Scope.decode source) c.scope :=
    ⟨x, hx, hscope.decode_eq hxlowered source⟩
  have haccount : u.Has (Text.lowercase "account") (Account.decode source) c.account :=
    ⟨y, hy, haccount.decode_eq hylowered source⟩
  have haccepts : ∀ f ∈ fields source, f.AcceptsAt (Text.lowercase f.name) u := by
    simp only [fields, List.forall_mem_cons]
    exact ⟨hscope.acceptsAt _, haccount.acceptsAt _, by simp⟩
  obtain ⟨found, hrecord, hfound⟩ := Decoder.record_spelled hu.object.record
    ((caseless source).spelledAt hu.object.lowered) haccepts source "DiscoveryContext"
  obtain ⟨h₁, h₂, -⟩ := by simpa only [fields, List.forall_mem_cons] using hfound
  have h₁ : found.get "scope" (Scope.decode source) = .ok c.scope := hscope.get_eq_at h₁
  have h₂ : found.get "account" (Account.decode source) = .ok c.account := haccount.get_eq_at h₂
  rw [decode, hrecord]
  simp only [bind, Except.bind, h₁, h₂]
  rfl

/-- A text of a value that says what the context does is read as the context, if the reader keeps the
value at all and a role is named. -/
theorem parse_restated {text : String} (htext : Renders text v) (hkept : v.KeptAs maxDepth w)
    (h : c.RestatedBy v) :
    parse text =
      if c.scope.roles.isEmpty then .error (.invalidContext "scope must name at least one role")
      else .ok c := by
  have hdecode : decode .tree (lowerKeys w).node = .ok c := h.decode_eq ⟨_, w, hkept, rfl⟩ .tree
  have hread : decodeText (fun n => faulted (n.value maxDepth)) text = .ok w := by
    rw [htext.decodeText_eq, faulted, hkept]
    rfl
  rw [parse, hread]
  simp only [Except.mapError, bind, Except.bind, hdecode]
  cases c.scope.roles.isEmpty <;> rfl

theorem hasDistinctNames_json (c : Context) : c.json.HasDistinctNames := (caseless .tree).nodup

theorem restatedBy_json (c : Context) : c.RestatedBy c.json := by
  have hmembers : c.json.members = [("scope", c.scope.json), ("account", c.account.json)] := rfl
  have hscope := c.hasDistinctNames_json.named_eq (e := ("scope", c.scope.json)) (by simp [hmembers])
  have haccount :=
    c.hasDistinctNames_json.named_eq (e := ("account", c.account.json)) (by simp [hmembers])
  exact ⟨⟨_, rfl⟩, ⟨_, hscope, c.scope.restatedBy_json⟩, ⟨_, haccount, c.account.restatedBy_json⟩⟩

section Witness

def untenanted : Context where
  scope := ⟨"Spaces-1", "dev", "Projects-1", none, NameSet.ofList ["db", "web"]⟩
  account := { subscription := "s", client := "c" }

def shoutedScope : Value := .ofFields [("ROLES", .ofItems (["web", "db", "web"].map .string)),
  ("ProjectID", .string "Projects-1"), ("spaceid", .string "Spaces-1"), ("Note", .ofItems [.null]),
  ("EnvironmentId", .string "dev")]

def shoutedAccount : Value := .ofFields [("CLIENTID", .string "c"), ("TenantId", .string ""),
  ("SubscriptionNumber", .string "s")]

def shouted : Value := .ofFields [("Version", .bool true), ("ACCOUNT", shoutedAccount),
  ("Scope", shoutedScope)]

theorem untenanted_restatedBy_shouted : untenanted.RestatedBy shouted where
  object := ⟨_, rfl⟩
  scope := by
    have hroles : ∀ n, n ∈ ["web", "db", "web"] ↔ n ∈ untenanted.scope.roles.toList := by
      intro n
      rw [show untenanted.scope.roles.toList = ["db", "web"] from rfl]
      simp only [List.mem_cons, List.not_mem_nil, or_false]
      tauto
    refine ⟨("Scope", shoutedScope), by decide, ⟨_, rfl⟩, ?_⟩
    simp only [Scope.json, members_ofFields, List.forall_mem_cons]
    refine ⟨.inl ⟨("spaceid", _), ?_, .inl rfl⟩, .inl ⟨("EnvironmentId", _), ?_, .inl rfl⟩,
      .inl ⟨("ProjectID", _), ?_, .inl rfl⟩, .inr ⟨?_, rfl⟩,
      .inl ⟨("ROLES", _), ?_, .inr ⟨_, _, rfl, rfl, hroles⟩⟩, by simp⟩
    all_goals decide
  account := by
    refine ⟨("ACCOUNT", shoutedAccount), by decide, ⟨_, rfl⟩, ?_⟩
    simp only [Account.json, members_ofFields, List.forall_mem_cons]
    refine ⟨.inl ⟨("SubscriptionNumber", _), ?_, rfl⟩, .inl ⟨("CLIENTID", _), ?_, rfl⟩,
      .inl ⟨("TenantId", _), ?_, rfl⟩, .inr ⟨?_, rfl⟩, .inr ⟨?_, rfl⟩, .inr ⟨?_, rfl⟩,
      .inr ⟨?_, rfl⟩, by simp⟩
    all_goals decide

theorem parse_restated_shouted : parse shouted.text = .ok untenanted := by
  have htext : Renders shouted.text shouted := by decide +kernel
  have hdepth : shouted.depth ≤ maxDepth := by decide
  obtain ⟨w, hw⟩ := Value.value_node hdepth
  exact parse_restated htext hw untenanted_restatedBy_shouted

end Witness

end Context

end WebAppTargets
