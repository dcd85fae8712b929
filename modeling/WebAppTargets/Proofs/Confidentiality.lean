import WebAppTargets.Proofs.AllOrNothing
import WebAppTargets.Proofs.Guises
import WebAppTargets.Proofs.Paging
import WebAppTargets.Proofs.Restating
import WebAppTargets.Proofs.Subscription

namespace WebAppTargets

open Json

section Blank

variable {s : List Char}

theorem Text.isDigit_of_isBlank {c : Char} (h : isBlank c) : c.isDigit = false := by
  rw [← Bool.not_eq_true]
  intro hdigit
  simp only [Char.isDigit, Bool.and_eq_true, decide_eq_true_eq] at hdigit
  have hrange : 48 ≤ c.toNat ∧ c.toNat ≤ 57 := hdigit
  simp only [isBlank, Bool.or_eq_true, Bool.and_eq_true, decide_eq_true_eq, beq_iff_eq] at h
  omega

theorem Json.Reader.value_of_blank (h : s.all Text.isBlank) (fuel : Nat) :
    ∃ f, value (fuel + 1) (s.map some) = (.absent f, none) := by
  rw [value]
  cases hs : skipSpace (s.map some) with
  | nil => exact ⟨.eof, rfl⟩
  | cons l r =>
      have hmem : l ∈ s.map some := (List.dropWhile_sublist _).subset (hs ▸ List.mem_cons_self)
      obtain ⟨c, hc, rfl⟩ := List.mem_map.1 hmem
      have hblank := List.all_eq_true.1 h c hc
      have hne (x : Char) (hx : Text.isBlank x = false) : c ≠ x := by
        rintro rfl
        rw [hblank] at hx
        cases hx
      refine ⟨.malformed, ?_⟩
      simp [Text.isDigit_of_isBlank hblank, hne '"' rfl, hne '[' rfl, hne '\x7b' rfl, hne 'n' rfl,
        hne 't' rfl, hne 'f' rfl, hne '-' rfl]

end Blank

namespace Context

variable {text : String} {c : Context}

def read (text : String) : Except Error Context := do
  let value ← (decodeText (fun n => faulted (n.value maxDepth)) text).mapError .json
  (decode .tree (lowerKeys value).node).mapError .json

def withCredentials (c : Context) (k : Credentials) : Context :=
  { c with account := c.account.withCredentials k }

theorem not_blank_of_read (h : read text = .ok c) : Text.isBlankText text = false := by
  rw [← Bool.not_eq_true]
  intro hblank
  obtain ⟨f, hf⟩ := Reader.value_of_blank hblank (2 * text.toList.length + 1)
  obtain ⟨value, hvalue, -⟩ := bind_eq_ok_iff.1 h
  rw [decodeText, decodeLetters, Json.read, lettersOf, List.length_map, hf] at hvalue
  cases hvalue

theorem parse_of_read (h : read text = .ok c) :
    parse text =
      if c.scope.roles.isEmpty then .error (.invalidContext "scope must name at least one role")
      else .ok c := by
  obtain ⟨value, hvalue, hdecode⟩ := bind_eq_ok_iff.1 h
  rw [parse, hvalue]
  simp only [bind, Except.bind, hdecode]
  cases c.scope.roles.isEmpty <;> rfl

theorem read_json (htext : Renders c.json.text c.json) (hdepth : c.json.depth ≤ maxDepth) :
    read c.json.text = .ok c := by
  obtain ⟨w, hkept⟩ := Value.value_node hdepth
  have hdecode : decode .tree (lowerKeys w).node = .ok c :=
    c.restatedBy_json.decode_eq ⟨_, w, hkept, rfl⟩ .tree
  have hvalue : decodeText (fun n => faulted (n.value maxDepth)) c.json.text = .ok w := by
    rw [htext.decodeText_eq, faulted, hkept]
    rfl
  rw [read, hvalue]
  simp only [Except.mapError, bind, Except.bind, hdecode]

end Context

/-- Variables that differ in their discovery contexts alone, and these when read in nothing but the
credentials of their accounts. -/
structure Variables.SameButCredentials (v v' : Variables) : Prop where
  others : ∀ name, name ≠ Variable.discoveryContext → v'.get? name = v.get? name
  contexts : ∃ text text' context k, v.get? Variable.discoveryContext = some text ∧
    v'.get? Variable.discoveryContext = some text' ∧ Context.read text = .ok context ∧
    Context.read text' = .ok (context.withCredentials k)

namespace Registry

/-- Makers of the clients that there are: one with contents and faults of its own, and one that talks
to a service. -/
inductive IsMaker : (Config → Except Error AnyClient) → Prop
  | memory (m : Memory) : IsMaker fun _ => .ok (.memory m)
  | rest (network : Network) (environment : Option String) :
      IsMaker fun c => .ok (.rest (.ofConfig network c environment))

def IsUsual (registry : Registry AnyClient) : Prop :=
  ∀ kind make, registry.get? kind = some make → IsMaker make

theorem standard_isUsual (network : Network) (environment : Option String) :
    (standard network environment).IsUsual := by
  intro kind make h
  simp only [standard, register, Table.get?_insert, Table.get?_empty] at h
  split at h
  · cases h
    exact .rest network environment
  · split at h
    · cases h
      exact .memory {}
    · cases h

end Registry

namespace AnyClient

def Alias (k : Credentials) : AnyClient → AnyClient → Prop := Both Eq (Rest.Under ⟨k, []⟩)

def requests : AnyClient → List Request
  | .memory _ => []
  | .rest r => r.network.received

def calls : AnyClient → List Call
  | .memory m => m.calls
  | .rest _ => []

variable {k : Credentials} {c c' : AnyClient}

theorem ends_rest {α : Type} {x : Action Memory α} {y : Action Rest α} {r r' : Rest} {q : Except Error α}
    (h : Action.Ends r y q r') : Action.Ends (.rest r) (either x y) q (.rest r') := by
  intro w hw
  obtain ⟨hq, hr⟩ := h { client := r, log := w.log, trace := w.trace } rfl
  have heither : either x y w = Action.onPart r .rest y w := by
    rw [either, Action.bind_ok (Prod.ext (congrArg Except.ok hw) rfl : Action.client w = (.ok (.rest r), w))]
  rw [heither, ← hq, ← hr]
  exact ⟨rfl, rfl⟩

theorem Alias.requests_eq (h : Alias k c c') : c.requests = c'.requests := by
  cases h with
  | memory h => rfl
  | rest h =>
      cases h
      rfl

theorem Alias.calls_eq (h : Alias k c c') : c.calls = c'.calls := by
  cases h with
  | memory h => exact congrArg Memory.calls h
  | rest h => rfl

theorem Alias.name_eq (h : Alias k c c') : Client.name c = Client.name c' := by
  cases h <;> rfl

theorem alias_alike : Client.Alike (Alias k) := alike Client.alike_eq Rest.guise_alike

theorem close_alike : Action.Alike (Alias k) Client.close Client.close :=
  either_alike (.same _) Rest.close_alike

end AnyClient

namespace Discovery

variable {registry : Registry AnyClient} {v v' : Variables} {config : Config}

structure Report.Indistinguishable (p q : Report AnyClient) : Prop where
  outcome : p.outcome = q.outcome
  log : p.log = q.log
  trace : p.trace = q.trace
  requests : p.client.map AnyClient.requests = q.client.map AnyClient.requests
  calls : p.client.map AnyClient.calls = q.client.map AnyClient.calls

theorem plan_of_read {text : String} {context : Context}
    (htext : v.get? Variable.discoveryContext = some text) (hread : Context.read text = .ok context) :
    plan v =
      if context.scope.roles.isEmpty then
        .error (.badContext (.invalidContext "scope must name at least one role"))
      else if !context.account.hasSubscription then .error .noSubscription
      else match v.nonBlank? Variable.resourceGroup with
        | some rg => .ok (context, rg)
        | none => .error .noResourceGroup := by
  have hnonBlank : v.nonBlank? Variable.discoveryContext = some text := by
    rw [Variables.nonBlank?, htext, Option.filter, Context.not_blank_of_read hread]
    rfl
  rw [plan, hnonBlank]
  simp only [pure_bind, Context.parse_of_read hread]
  by_cases hroles : context.scope.roles.isEmpty
  · simp only [if_pos hroles]
    rfl
  · simp only [if_neg hroles, Except.mapError, bind, Except.bind]
    by_cases hnone : !context.account.hasSubscription
    · simp only [if_pos hnone]
      rfl
    · simp only [if_neg hnone]
      cases v.nonBlank? Variable.resourceGroup <;> rfl

theorem plan_hides (h : v.SameButCredentials v') :
    (∃ o, plan v = .error o ∧ plan v' = .error o) ∨
      ∃ context rg k, plan v = .ok (context, rg) ∧ plan v' = .ok (context.withCredentials k, rg) := by
  obtain ⟨text, text', context, k, htext, htext', hread, hread'⟩ := h.contexts
  have hgroup : v'.nonBlank? Variable.resourceGroup = v.nonBlank? Variable.resourceGroup := by
    rw [Variables.nonBlank?, Variables.nonBlank?, h.others _ (by decide)]
  rw [plan_of_read htext hread, plan_of_read htext' hread', hgroup]
  by_cases hroles : context.scope.roles.isEmpty
  · rw [if_pos hroles, if_pos (show (context.withCredentials k).scope.roles.isEmpty from hroles)]
    exact .inl ⟨_, rfl, rfl⟩
  · rw [if_neg hroles, if_neg (show ¬(context.withCredentials k).scope.roles.isEmpty from hroles)]
    by_cases hnone : !context.account.hasSubscription
    · rw [if_pos hnone, if_pos (show !(context.withCredentials k).account.hasSubscription from hnone)]
      exact .inl ⟨_, rfl, rfl⟩
    · rw [if_neg hnone, if_neg (show ¬!(context.withCredentials k).account.hasSubscription from hnone)]
      cases v.nonBlank? Variable.resourceGroup with
      | none => exact .inl ⟨_, rfl, rfl⟩
      | some rg => exact .inr ⟨context, rg, k, rfl, rfl⟩

theorem make_hides (hregistry : registry.IsUsual) (config : Config) (a : Account) (k : Credentials) :
    (∃ e, registry.make (config.withAccount a) = .error e ∧
        registry.make (config.withAccount (a.withCredentials k)) = .error e) ∨
      ∃ c c', registry.make (config.withAccount a) = .ok c ∧
        registry.make (config.withAccount (a.withCredentials k)) = .ok c' ∧ c.Alias k c' := by
  unfold Registry.make
  simp only [Config.withAccount]
  cases hmake : registry.get? config.kind.text with
  | none => exact .inl ⟨_, rfl, rfl⟩
  | some make =>
      cases hregistry _ _ hmake with
      | memory m => exact .inr ⟨_, _, rfl, rfl, .memory rfl⟩
      | rest network environment => exact .inr ⟨_, _, rfl, rfl, .rest rfl⟩

/-- The credentials in the context of a run make no difference to its result, to what it tells, or to
what it asks for. -/
theorem run_hides_credentials (hregistry : registry.IsUsual) (h : v.SameButCredentials v')
    (config : Config) :
    (run registry.make v config).Indistinguishable (run registry.make v' config) := by
  rcases plan_hides h with ⟨o, hplan, hplan'⟩ | ⟨context, rg, k, hplan, hplan'⟩
  · rw [run_of_plan_eq_error hplan, run_of_plan_eq_error hplan']
    exact ⟨rfl, rfl, rfl, rfl, rfl⟩
  · rcases make_hides hregistry config context.account k with
      ⟨e, hmake, hmake'⟩ | ⟨c, c', hmake, hmake', halias⟩
    · rw [run_of_make_eq_error hplan hmake, run_of_make_eq_error hplan' hmake']
      exact ⟨rfl, rfl, rfl, rfl, rfl⟩
    · rw [run_of_made hplan hmake, run_of_made hplan' hmake']
      obtain ⟨hresult, hworld⟩ := AnyClient.alias_alike.session context.scope rg
        AnyClient.close_alike (fun _ _ h => h.name_eq) { client := c } { client := c' }
        ⟨halias, rfl, rfl⟩
      exact ⟨hresult, hworld.log, hworld.trace, congrArg some hworld.client.requests_eq,
        congrArg some hworld.client.calls_eq⟩

section Passwords

def variablesOf (c : Context) : Variables :=
  (Table.empty.insert Variable.resourceGroup "rg").insert Variable.discoveryContext c.json.text

def signedIn : Context where
  scope := ⟨"Spaces-1", "dev", "Projects-1", none, NameSet.ofList ["web"]⟩
  account :=
    { subscription := "dad814cf-1c1e-4953-b950-c373a821c34f", client := "c", password := "p" }

def otherPassword : Credentials := ⟨"", "t", "longer", ""⟩

theorem read_json_text (c : Context) (hc : c ∈ [signedIn, signedIn.withCredentials otherPassword]) :
    Context.read c.json.text = .ok c := by
  have hwritten : ∀ c ∈ [signedIn, signedIn.withCredentials otherPassword],
      Json.read ((Writer.value c.json).map some) = (c.json.node, false) ∧
        c.json.depth ≤ maxDepth := by
    decide +kernel
  exact Context.read_json (renders_text_iff.2 (hwritten c hc).1) (hwritten c hc).2

theorem signedIn_sameButCredentials :
    (variablesOf signedIn).SameButCredentials
      (variablesOf (signedIn.withCredentials otherPassword)) where
  others name h := by simp [variablesOf, h]
  contexts := ⟨_, _, signedIn, otherPassword, by simp [variablesOf], by simp [variablesOf],
    read_json_text _ (.head _), read_json_text _ (.tail _ (.head _))⟩

open WebAppTargets.Action Rest

def servingConfig : Config where
  kind := .rest
  options := .ofList [("access_token", "token"), ("base_url", "http://[::1]")]

def taggedPage : Value := pageJson [siteJson "a" webTagsJson] .null

def servingNetwork : Network := { replies := [taggedPage, emptyPage].map fun v => ⟨200, v.text⟩ }

def newClient : Rest := ofConfig servingNetwork (servingConfig.withAccount signedIn.account)

theorem newClient_reaches {url : String} (h : isWritable url.toList) : newClient.ready.Reaches url := by
  have htoken : (⟨.get, "", "token", none⟩ : Request).hasPlainToken := by decide
  exact reaches_of_isWritable _ rfl htoken h

set_option maxRecDepth 100000 in
theorem newClient_pages :
    newClient.ready.Paged (newClient.ready.appsAddress "rg") [⟨200, taggedPage.text⟩] [pagedFamily.app] ∧
      newClient.ready.Paged (newClient.ready.slotsAddress "rg" "a") [⟨200, emptyPage.text⟩] [] := by
  have hrenders : Renders taggedPage.text taggedPage ∧ Renders emptyPage.text emptyPage := by
    decide +kernel
  constructor
  · refine .last (newClient_reaches ?_) hrenders.1.holds
      (pageJson_tells (.cons (siteJson_tells "a" webTagsJson_tells) .nil) .null)
    simp only [appsAddress, groupAddress, toString, String.toList_append]
    decide +kernel
  · refine .last (newClient_reaches ?_) hrenders.2.holds (pageJson_tells .nil .empty)
    simp only [slotsAddress, webAppAddress, groupAddress, toString, String.toList_append]
    decide +kernel

theorem search_ends_of_newClient : ∃ sent, sent.length = 2 ∧
    Ends (AnyClient.rest newClient) (search signedIn.scope "rg") (.ok [⟨"a", none, "a", "rg", "web"⟩])
      (.rest (newClient.ready.after sent)) := by
  obtain ⟨happs, hslots⟩ := newClient_pages
  obtain ⟨sent, hsent, happs⟩ := listWebApps_ends rfl [] rfl happs (List.prefix_append _ _)
  obtain ⟨more, hmore, hslots⟩ := listSlots_ends rfl sent rfl rfl hslots (hsent ▸ List.prefix_refl _)
  rw [after_nil, List.nil_append] at happs
  have hslots : Enumerates "rg" (AnyClient.rest (newClient.ready.after sent))
      [(pagedFamily.app.webApp "rg", [])] (.rest (newClient.ready.after (sent ++ more))) :=
    .cons (AnyClient.ends_rest hslots) (.nil _)
  have hinit : Ends (AnyClient.rest newClient) Client.init (.ok ()) (.rest newClient.ready) :=
    AnyClient.ends_rest (init_ends newClient (by decide) (by decide))
  exact ⟨sent ++ more, by rw [List.length_append, hsent, hmore]; rfl,
    hinit.bind (hslots.find_ends rfl (AnyClient.ends_rest happs) signedIn.scope)⟩

theorem session_of_newClient :
    (session signedIn.scope "rg" { client := AnyClient.rest newClient }).1 =
        .ok [⟨"a", none, "a", "rg", "web"⟩] ∧
      (session signedIn.scope "rg" { client := AnyClient.rest newClient }).2.client.requests.length = 2 := by
  obtain ⟨sent, hsent, hends⟩ := search_ends_of_newClient
  obtain ⟨hresult, hclient⟩ := hends { client := .rest newClient } rfl
  obtain ⟨houtcome, hworld⟩ := session_ends signedIn.scope "rg" { client := AnyClient.rest newClient }
  have hreceived : (newClient.ready.after sent).network.received = sent := rfl
  refine ⟨houtcome.trans hresult, ?_⟩
  rcases hworld with ⟨-, hworld⟩ | ⟨u, t, hu, -, hworld⟩
  · rw [hworld, hclient, AnyClient.requests, hreceived, hsent]
  · have hclose : Ends (AnyClient.rest (newClient.ready.after sent)) Client.close (.ok ())
        (.rest { newClient.ready.after sent with isOpen := false }) :=
      AnyClient.ends_rest (Ends.modify _ _)
    rw [hworld, (hclose u (hu.trans hclient)).2, AnyClient.requests, hreceived, hsent]

theorem ends_of_made {make : Config → Except Error AnyClient} {context : Context} {resourceGroup : String}
    {c : AnyClient} (hplan : plan v = .ok (context, resourceGroup))
    (hmake : make (config.withAccount context.account) = .ok c) :
    (run make v config).outcome = (session context.scope resourceGroup { client := c }).1 ∧
      (run make v config).client = some (session context.scope resourceGroup { client := c }).2.client := by
  rw [run_of_made hplan hmake]
  exact ⟨rfl, rfl⟩

theorem plan_signedIn : plan (variablesOf signedIn) = .ok (signedIn, "rg") := by
  rw [plan_of_read (by simp [variablesOf]) (read_json_text signedIn (.head _))]
  rfl

/-- Both runs list a web app and its slots. -/
theorem run_hides_credentials_password :
    (Registry.standard servingNetwork).IsUsual ∧
    (variablesOf signedIn).SameButCredentials
      (variablesOf (signedIn.withCredentials otherPassword)) ∧
    (run (Registry.standard servingNetwork).make (variablesOf signedIn) servingConfig).outcome =
      .ok [⟨"a", none, "a", "rg", "web"⟩] ∧
    (run (Registry.standard servingNetwork).make (variablesOf signedIn) servingConfig).client.map
      (·.requests.length) = some 2 ∧
    (run (Registry.standard servingNetwork).make (variablesOf signedIn) servingConfig).Indistinguishable
      (run (Registry.standard servingNetwork).make (variablesOf (signedIn.withCredentials otherPassword))
        servingConfig) := by
  have husual := Registry.standard_isUsual servingNetwork none
  have hmake : (Registry.standard servingNetwork).make (servingConfig.withAccount signedIn.account) =
      .ok (.rest newClient) := rfl
  obtain ⟨houtcome, hclient⟩ := ends_of_made plan_signedIn hmake
  obtain ⟨hresult, hrequests⟩ := session_of_newClient
  refine ⟨husual, signedIn_sameButCredentials, ?_, ?_,
    run_hides_credentials husual signedIn_sameButCredentials servingConfig⟩
  · rw [houtcome, hresult]
  · rw [hclient, Option.map_some, hrequests]

end Passwords

end Discovery

end WebAppTargets
