import WebAppTargets.Health
import WebAppTargets.Proofs.Guard
import WebAppTargets.Proofs.Looking
import WebAppTargets.Proofs.Sending

namespace WebAppTargets

open WebAppTargets.Action

namespace Memory

variable {m : Memory} {resourceGroup webApp : String}

theorem webApp?_eq_none_iff :
    m.webApp? resourceGroup webApp = none ↔
      ∀ r ∈ m.resources, r.isSlot = false → r.resourceGroup = resourceGroup → r.name ≠ webApp := by
  simp [webApp?, webApps]

theorem getWebApp_ends (h : m.listError = none) :
    m.Ends (Client.getWebApp resourceGroup webApp) (.ok (m.webApp? resourceGroup webApp)) m.contents
      [.getWebApp resourceGroup webApp] :=
  (Ends.call m h).bind (Ends.read _ fun m => m.webApp? resourceGroup webApp)

theorem getWebApp_fails {e : Error} (h : m.listError = some e) :
    m.Ends (Client.getWebApp resourceGroup webApp) (.error (.other e.message)) m.contents
      [.getWebApp resourceGroup webApp] :=
  (Ends.call_error m h).bind_error

def Unwritten (m m' : Memory) : Prop := m'.contents = m.contents

instance : IsPreorder Memory Unwritten where
  refl _ := rfl
  trans _ _ _ h h' := h'.trans h

theorem getWebApp_looks :
    Action.Looks Unwritten (Client.getWebApp resourceGroup webApp : Action Memory _) :=
  .bind (call_looks (C := Unwritten) (fun _ => rfl) _) fun _ => .bind .client fun _ => .value _

end Memory

namespace Reply

variable {α : Type} {d : Json.Decoder α} {reply : Reply}

theorem read_of_missing (h : reply.status = 404) : reply.read d = .error (.notFound reply.body.text) := by
  have hsuccess : reply.isSuccess = false := by simp [isSuccess, h]
  rw [read_of_failure hsuccess, fault, if_neg (by simp [hsuccess]), Error.ofStatus, if_neg (by simp [h]),
    if_pos h]

theorem fault_ne_notFound (h : reply.status ≠ 404) (what : String) : reply.fault ≠ .notFound what := by
  unfold fault Error.ofStatus
  rw [if_neg h]
  split
  · exact Error.noConfusion
  · split <;> exact Error.noConfusion

end Reply

namespace Rest

variable {r : Rest} {resourceGroup webApp : String}

def lookup (r : Rest) (resourceGroup webApp : String) : Request :=
  ⟨.get, r.webAppAddress resourceGroup webApp ++ "?api-version=" ++ r.version, r.token, none⟩

def Delivers (r : Rest) (resourceGroup webApp : String) : Prop :=
  r.isOpen ∧ r.Reaches (r.lookup resourceGroup webApp).url

theorem getWebApp_looks : Action.Looks Looked (Client.getWebApp resourceGroup webApp : Action Rest _) := by
  refine .bind (locate_looks _ _) fun url => .bind (.attempt (request_looks url)) fun found => ?_
  split
  · exact .value _
  · exact .value _
  · exact .fail _

section Valid

variable (hgroup : Naming.checkResourceGroup resourceGroup = .ok ())
  (happ : Naming.checkWebApp webApp = .ok ())

include hgroup happ

theorem locate_webApp_ends (r : Rest) :
    Ends r (locate (·.webAppUrl resourceGroup webApp) "") (.ok (r.lookup resourceGroup webApp).url) r := by
  have h : Ends r (locate (·.webAppUrl resourceGroup webApp) "")
      (.ok (r.versioned (r.webAppAddress resourceGroup webApp ++ ""))) r :=
    locate_ends (webAppUrl_eq r hgroup happ) ""
  rwa [String.append_empty] at h

theorem getWebApp_finds (h : r.Delivers resourceGroup webApp) {s : ListedSite}
    (hread : (r.reply 0).read ListedSite.decode = .ok s) :
    Ends r (Client.getWebApp resourceGroup webApp) (.ok (some (s.webApp resourceGroup)))
      (r.after [r.lookup resourceGroup webApp]) := by
  have hrequest := request_ends h.1 .get none ListedSite.decode h.2
  rw [hread] at hrequest
  exact (locate_webApp_ends hgroup happ r).bind (hrequest.attempt.bind (Ends.value _ _))

theorem getWebApp_misses (h : r.Delivers resourceGroup webApp) (hstatus : (r.reply 0).status = 404) :
    Ends r (Client.getWebApp resourceGroup webApp) (.ok none)
      (r.after [r.lookup resourceGroup webApp]) := by
  have hrequest := request_ends h.1 .get none ListedSite.decode h.2
  rw [Reply.read_of_missing hstatus] at hrequest
  exact (locate_webApp_ends hgroup happ r).bind (hrequest.attempt.bind (Ends.value _ _))

/-- Of the errors of a request, one alone is taken for an answer. -/
theorem getWebApp_fails {e : Error} {r' : Rest}
    (hrequest : Ends r (request ListedSite.decode .get (r.lookup resourceGroup webApp).url none)
      (.error e) r') (he : ∀ what, e ≠ .notFound what) :
    Ends r (Client.getWebApp resourceGroup webApp)
      (.error (.operation "arm" "get-web-app" webApp e)) r' := by
  refine (locate_webApp_ends hgroup happ r).bind (hrequest.attempt.bind ?_)
  split
  · rename_i heq
    cases heq
  · rename_i what heq
    exact absurd (Except.error.inj heq) (he what)
  · rename_i heq
    cases heq
    exact Ends.fail _ _

end Valid

end Rest

namespace AnyClient

inductive Says (resourceGroup webApp : String) : AnyClient → Except Error (Option Resource) → Prop
  | held {m : Memory} {r : Resource} (hfault : m.listError = none)
      (h : m.webApp? resourceGroup webApp = some r) : Says resourceGroup webApp (.memory m) (.ok (some r))
  | absent {m : Memory} (hfault : m.listError = none)
      (h : ∀ r ∈ m.resources, r.isSlot = false → r.resourceGroup = resourceGroup → r.name ≠ webApp) :
      Says resourceGroup webApp (.memory m) (.ok none)
  | injected {m : Memory} {e : Error} (hfault : m.listError = some e) :
      Says resourceGroup webApp (.memory m) (.error (.other e.message))
  | found {r : Rest} {s : ListedSite} (h : r.Delivers resourceGroup webApp)
      (hread : (r.reply 0).read ListedSite.decode = .ok s) :
      Says resourceGroup webApp (.rest r) (.ok (some (s.webApp resourceGroup)))
  | missing {r : Rest} (h : r.Delivers resourceGroup webApp) (hstatus : (r.reply 0).status = 404) :
      Says resourceGroup webApp (.rest r) (.ok none)
  | failed {r : Rest} (h : r.Delivers resourceGroup webApp) (hstatus : (r.reply 0).status ≠ 404)
      (hbad : ¬(r.reply 0).IsGood ListedSite.decode) :
      Says resourceGroup webApp (.rest r) (.error (.operation "arm" "get-web-app" webApp (r.reply 0).fault))
  | closed {r : Rest} (h : ¬r.isOpen) :
      Says resourceGroup webApp (.rest r)
        (.error (.operation "arm" "get-web-app" webApp .notAuthenticated))
  | unsent {r : Rest} (h : ¬r.Reaches (r.lookup resourceGroup webApp).url) (reason : String) :
      Says resourceGroup webApp (.rest r)
        (.error (.operation "arm" "get-web-app" webApp (.other reason)))

/-- The same client after it was asked for the web app: nothing is written. -/
inductive Glanced (resourceGroup webApp : String) : AnyClient → AnyClient → Prop
  | called (m : Memory) :
      Glanced resourceGroup webApp (.memory m)
        (.memory (m.after m.contents [.getWebApp resourceGroup webApp]))
  | sent {r : Rest} (h : r.Delivers resourceGroup webApp) :
      Glanced resourceGroup webApp (.rest r) (.rest (r.after [r.lookup resourceGroup webApp]))
  | unsent {r : Rest} (h : ¬r.Delivers resourceGroup webApp) : Glanced resourceGroup webApp (.rest r) (.rest r)

variable {resourceGroup webApp : String} {c : AnyClient} {q : Except Error (Option Resource)}

theorem Says.eq_ok {o : Option Resource} (h : Says resourceGroup webApp c (.ok o))
    (h' : Says resourceGroup webApp c q) : q = .ok o := by
  have hgood {r : Rest} {s : ListedSite} (hread : (r.reply 0).read ListedSite.decode = .ok s) :
      (r.reply 0).status ≠ 404 := by
    intro hstatus
    rw [Reply.read_of_missing hstatus] at hread
    cases hread
  cases h with
  | held hfault h =>
      cases h' with
      | held _ h' => rw [Option.some.inj (h.symm.trans h')]
      | absent _ h' => cases h.symm.trans (Memory.webApp?_eq_none_iff.2 h')
      | injected hfault' => cases hfault.symm.trans hfault'
  | absent hfault h =>
      cases h' with
      | held _ h' => cases h'.symm.trans (Memory.webApp?_eq_none_iff.2 h)
      | absent => rfl
      | injected hfault' => cases hfault.symm.trans hfault'
  | found h hread =>
      cases h' with
      | found _ hread' => rw [Except.ok.inj (hread.symm.trans hread')]
      | missing _ hstatus => exact absurd hstatus (hgood hread)
      | failed _ _ hbad => exact absurd (Reply.isGood_iff.2 ⟨_, hread⟩) hbad
      | closed h' => exact absurd h.1 h'
      | unsent h' => exact absurd h.2 h'
  | missing h hstatus =>
      cases h' with
      | found _ hread => exact absurd hstatus (hgood hread)
      | missing => rfl
      | failed _ hstatus' => exact absurd hstatus hstatus'
      | closed h' => exact absurd h.1 h'
      | unsent h' => exact absurd h.2 h'

theorem Says.ok_iff (h : Says resourceGroup webApp c q) (o : Option Resource) :
    Says resourceGroup webApp c (.ok o) ↔ q = .ok o := by
  constructor
  · intro ho
    exact ho.eq_ok h
  · rintro rfl
    exact h

theorem Says.ne_siteNotFound {e : Error} (h : Says resourceGroup webApp c (.error e))
    (app group subscription : String) : e ≠ .siteNotFound app group subscription := by
  cases h <;> exact Error.noConfusion

theorem Says.eq_injected {m : Memory} {e : Error} (h : Says resourceGroup webApp (.memory m) q)
    (hfault : m.listError = some e) : q = .error (.other e.message) := by
  cases h with
  | held hnone => cases hnone.symm.trans hfault
  | absent hnone => cases hnone.symm.trans hfault
  | injected hfault' => rw [Option.some.inj (hfault'.symm.trans hfault)]

theorem Says.eq_operation {r : Rest} (h : Says resourceGroup webApp (.rest r) q)
    (hstatus : ¬(r.Delivers resourceGroup webApp ∧ (r.reply 0).status = 404))
    (hgood : ¬(r.Delivers resourceGroup webApp ∧ (r.reply 0).IsGood ListedSite.decode)) :
    ∃ cause, q = .error (.operation "arm" "get-web-app" webApp cause) ∧
      (r.Delivers resourceGroup webApp → cause = (r.reply 0).fault) := by
  cases h with
  | found h hread => exact absurd ⟨h, Reply.isGood_iff.2 ⟨_, hread⟩⟩ hgood
  | missing h h404 => exact absurd ⟨h, h404⟩ hstatus
  | failed => exact ⟨_, rfl, fun _ => rfl⟩
  | closed h => exact ⟨_, rfl, fun h' => absurd h'.1 h⟩
  | unsent h => exact ⟨_, rfl, fun h' => absurd h'.2 h⟩

section Valid

variable (hgroup : Naming.checkResourceGroup resourceGroup = .ok ())
  (happ : Naming.checkWebApp webApp = .ok ())

include hgroup happ

theorem rest_says (r : Rest) :
    ∃ q r', Ends r (Client.getWebApp resourceGroup webApp) q r' ∧
      Says resourceGroup webApp (.rest r) q ∧ Glanced resourceGroup webApp (.rest r) (.rest r') := by
  by_cases hopen : r.isOpen
  · by_cases hreach : r.Reaches (r.lookup resourceGroup webApp).url
    · have h : r.Delivers resourceGroup webApp := ⟨hopen, hreach⟩
      by_cases hstatus : (r.reply 0).status = 404
      · exact ⟨_, _, Rest.getWebApp_misses hgroup happ h hstatus, .missing h hstatus, .sent h⟩
      · by_cases hgood : (r.reply 0).IsGood ListedSite.decode
        · obtain ⟨s, hread⟩ := Reply.isGood_iff.1 hgood
          exact ⟨_, _, Rest.getWebApp_finds hgroup happ h hread, .found h hread, .sent h⟩
        · have hrequest := Rest.request_ends hopen .get none ListedSite.decode hreach
          rw [Reply.read_of_not_isGood hgood] at hrequest
          exact ⟨_, _, Rest.getWebApp_fails hgroup happ hrequest (Reply.fault_ne_notFound hstatus),
            .failed h hstatus hgood, .sent h⟩
    · obtain ⟨reason, hrequest⟩ :=
        Rest.request_ends_of_not_reaches hopen .get none ListedSite.decode hreach
      exact ⟨_, _, Rest.getWebApp_fails hgroup happ hrequest nofun, .unsent hreach reason,
        .unsent fun h => hreach h.2⟩
  · have hrequest := Rest.request_refuses hopen ListedSite.decode .get
      (r.lookup resourceGroup webApp).url none
    exact ⟨_, _, Rest.getWebApp_fails hgroup happ hrequest nofun, .closed hopen,
      .unsent fun h => hopen h.1⟩

theorem getWebApp_says (w : World AnyClient) :
    Says resourceGroup webApp w.client (Client.getWebApp resourceGroup webApp w).1 ∧
      Glanced resourceGroup webApp w.client (Client.getWebApp resourceGroup webApp w).2.client ∧
      (Client.getWebApp resourceGroup webApp w).2.log = w.log := by
  obtain ⟨c, log, trace⟩ := w
  cases c with
  | memory m =>
      have hends : ∃ q, m.Ends (Client.getWebApp resourceGroup webApp) q m.contents
          [.getWebApp resourceGroup webApp] ∧ Says resourceGroup webApp (.memory m) q := by
        cases hfault : m.listError with
        | some e => exact ⟨_, Memory.getWebApp_fails hfault, .injected hfault⟩
        | none =>
            refine ⟨_, Memory.getWebApp_ends hfault, ?_⟩
            cases hfind : m.webApp? resourceGroup webApp with
            | none => exact .absent hfault (Memory.webApp?_eq_none_iff.1 hfind)
            | some r => exact .held hfault hfind
      obtain ⟨q, hends, hanswer⟩ := hends
      obtain ⟨rfl, hclient⟩ := hends ⟨m, log, trace⟩ rfl
      have hglanced : Glanced resourceGroup webApp (.memory m)
          (.memory (m.after m.contents [.getWebApp resourceGroup webApp])) := .called m
      rw [← hclient] at hglanced
      exact ⟨hanswer, hglanced, (Memory.getWebApp_looks ⟨m, log, trace⟩).2⟩
  | rest r =>
      have hends : ∃ q r', Ends r (Client.getWebApp resourceGroup webApp) q r' ∧
          Says resourceGroup webApp (.rest r) q ∧ Glanced resourceGroup webApp (.rest r) (.rest r') :=
        rest_says hgroup happ r
      obtain ⟨q, r', hends, hanswer, hglanced⟩ := hends
      obtain ⟨rfl, rfl⟩ := hends ⟨r, log, trace⟩ rfl
      exact ⟨hanswer, hglanced, (Rest.getWebApp_looks ⟨r, log, trace⟩).2⟩

end Valid

end AnyClient

namespace Health

open AnyClient (Says Glanced)

variable {σ : Type} [Client σ] {v : Variables} {s : Site}

/-- The variables name a site, and its names are within the rules. -/
def Names (v : Variables) (s : Site) : Prop :=
  ∃ resourceGroup webApp, v.nonBlank? Variable.resourceGroup = some resourceGroup ∧
    v.nonBlank? Variable.webApp = some webApp ∧ s = Site.parse resourceGroup webApp none ∧
    s.validate = .ok ()

theorem site_eq_ok_iff : site v = .ok s ↔ Names v s := by
  constructor
  · intro h
    obtain ⟨webApp, happ, h⟩ := bind_eq_ok_iff.1 h
    obtain ⟨resourceGroup, hgroup, h⟩ := bind_eq_ok_iff.1 h
    obtain ⟨_, hvalid, h⟩ := bind_eq_ok_iff.1 h
    cases h
    exact ⟨_, _, elim_eq_ok_iff.1 hgroup, elim_eq_ok_iff.1 happ, rfl, hvalid⟩
  · rintro ⟨resourceGroup, webApp, hgroup, happ, rfl, hvalid⟩
    refine bind_eq_ok_iff.2 ⟨_, elim_eq_ok_iff.2 happ, bind_eq_ok_iff.2 ⟨_, elim_eq_ok_iff.2 hgroup, ?_⟩⟩
    exact bind_eq_ok_iff.2 ⟨(), hvalid, rfl⟩

theorem isBare_of_site {e : Error} (h : site v = .error e) : e.IsBare := by
  rcases bind_eq_error_iff.1 h with h | ⟨webApp, -, h⟩
  · rw [(elim_eq_error_iff.1 h).2]
    trivial
  · rcases bind_eq_error_iff.1 h with h | ⟨resourceGroup, -, h⟩
    · rw [(elim_eq_error_iff.1 h).2]
      trivial
    · rcases bind_eq_error_iff.1 h with h | ⟨_, -, h⟩
      · exact Reconcile.isBare_of_validate h
      · cases h

def notice (r : Resource) : Entry :=
  match r.plan with
  | some plan =>
      .message ⟨"setVariable", [("name", "Octopus.Action.Azure.AppServicePlanId"), ("value", plan)]⟩
  | none => .line .warn s!"Web app {r.name} reports no App Service plan"

def notices : Except Error (Option Resource) → Log
  | .ok (some r) => [notice r]
  | _ => []

def conclude (v : Variables) (s : Site) : Except Error (Option Resource) → Except Error Resource
  | .ok (some r) => .ok r
  | .ok none => .error (.siteNotFound s.webApp s.resourceGroup (Account.ofVariables v).subscription)
  | .error e => .error e

theorem conclude_eq_ok_iff {q : Except Error (Option Resource)} {r : Resource} :
    conclude v s q = .ok r ↔ q = .ok (some r) := by
  rcases q with e | _ | r'
  · simp [conclude]
  · simp [conclude]
  · simp [conclude]

theorem conclude_eq_siteNotFound_iff {q : Except Error (Option Resource)} {app group subscription : String}
    (h : ∀ e, q = .error e → e ≠ .siteNotFound app group subscription) :
    conclude v s q = .error (.siteNotFound app group subscription) ↔
      q = .ok none ∧ app = s.webApp ∧ group = s.resourceGroup ∧
        subscription = (Account.ofVariables v).subscription := by
  rcases q with e | _ | r
  · simp [conclude, h e rfl]
  · simp [conclude, eq_comm]
  · simp [conclude]

theorem notices_of_conclude_eq_error {q : Except Error (Option Resource)} {e : Error}
    (h : conclude v s q = .error e) : notices q = [] := by
  rcases q with e | _ | r
  · rfl
  · rfl
  · cases h

omit [Client σ] in
theorem publish_apply (r : Resource) (w : World σ) :
    publish r w = (.ok (), { w with log := w.log ++ [notice r] }) := by
  unfold publish notice
  cases r.plan <;> rfl

theorem check_of_unnamed {e : Error} (h : site v = .error e) (w : World σ) : check v w = (.error e, w) :=
  bind_error (by rw [h]; rfl)

theorem check_of_names (h : Names v s) (w : World σ) :
    (check v w).1 = conclude v s (Client.getWebApp s.resourceGroup s.webApp w).1 ∧
      (check v w).2.client = (Client.getWebApp s.resourceGroup s.webApp w).2.client ∧
      (check v w).2.log = (Client.getWebApp s.resourceGroup s.webApp w).2.log ++
        notices (Client.getWebApp s.resourceGroup s.webApp w).1 := by
  have hsite : (Action.ofExcept (site v) : Action σ Site) w = (.ok s, w) := by
    rw [site_eq_ok_iff.2 h]
    rfl
  unfold check
  rw [bind_ok hsite]
  cases hanswer : Client.getWebApp s.resourceGroup s.webApp w with
  | mk q u =>
      cases q with
      | error e =>
          rw [bind_error hanswer]
          exact ⟨rfl, rfl, (List.append_nil _).symm⟩
      | ok o =>
          rw [bind_ok hanswer]
          cases o with
          | none => exact ⟨rfl, rfl, (List.append_nil _).symm⟩
          | some r =>
              dsimp only
              rw [bind_ok (publish_apply r u)]
              exact ⟨rfl, rfl, rfl⟩

theorem asked_of_names (h : Names v s) (w : World σ) :
    ∃ fault, Recorder.asked (check v) w = [⟨.getWebApp s.resourceGroup s.webApp, fault⟩] := by
  obtain ⟨-, hclient, -⟩ := check_of_names h (Recorder.recording w)
  rw [Recorder.asked, hclient]
  exact ⟨_, rfl⟩

structure Outcome (v : Variables) (w : World AnyClient) : Prop where
  unnamed : (∀ s, ¬Names v s) →
    (∃ e, e.IsBare ∧ (check v w).1 = .error e) ∧ Recorder.asked (check v) w = [] ∧
      (check v w).2.client = w.client
  asked : ∀ s, Names v s →
    (∃ fault, Recorder.asked (check v) w = [⟨.getWebApp s.resourceGroup s.webApp, fault⟩]) ∧
      Glanced s.resourceGroup s.webApp w.client (check v w).2.client
  missing : ∀ webApp resourceGroup subscription,
    (check v w).1 = .error (.siteNotFound webApp resourceGroup subscription) ↔
      ∃ s, Names v s ∧ Says s.resourceGroup s.webApp w.client (.ok none) ∧ webApp = s.webApp ∧
        resourceGroup = s.resourceGroup ∧ subscription = (Account.ofVariables v).subscription
  found : ∀ r, (check v w).1 = .ok r ↔
    ∃ s, Names v s ∧ Says s.resourceGroup s.webApp w.client (.ok (some r))
  failed : ∀ s r, Names v s → w.client = .rest r →
    ¬(r.Delivers s.resourceGroup s.webApp ∧ (r.reply 0).status = 404) →
    ¬(r.Delivers s.resourceGroup s.webApp ∧ (r.reply 0).IsGood ListedSite.decode) →
    ∃ cause, (check v w).1 = .error (.operation "arm" "get-web-app" s.webApp cause) ∧
      (r.Delivers s.resourceGroup s.webApp → cause = (r.reply 0).fault)
  injected : ∀ s m e, Names v s → w.client = .memory m → m.listError = some e →
    (check v w).1 = .error (.other e.message)
  published : ∀ r, (check v w).1 = .ok r → (check v w).2.log = w.log ++ [notice r]
  silent : ∀ e, (check v w).1 = .error e → (check v w).2.log = w.log

theorem outcome_of_unnamed {e : Error} (h : site v = .error e) (w : World AnyClient) :
    Outcome v w := by
  have hnone (s : Site) : ¬Names v s := by
    intro hs
    cases h.symm.trans (site_eq_ok_iff.2 hs)
  have hcheck := check_of_unnamed h w
  have hbare := isBare_of_site h
  constructor
  case unnamed =>
    refine fun _ => ⟨⟨e, hbare, by rw [hcheck]⟩, ?_, by rw [hcheck]⟩
    rw [Recorder.asked, check_of_unnamed h]
    rfl
  case asked => exact fun s hs => absurd hs (hnone s)
  case missing =>
    intro webApp resourceGroup subscription
    rw [hcheck]
    constructor
    · rintro ⟨⟩
      exact hbare.elim
    · rintro ⟨s, hs, -⟩
      exact absurd hs (hnone s)
  case found =>
    intro r
    rw [hcheck]
    constructor
    · intro hr
      cases hr
    · rintro ⟨s, hs, -⟩
      exact absurd hs (hnone s)
  case failed => exact fun s _ hs => absurd hs (hnone s)
  case injected => exact fun s _ _ hs => absurd hs (hnone s)
  case published =>
    intro r hr
    rw [hcheck] at hr
    cases hr
  case silent => exact fun _ _ => by rw [hcheck]

theorem outcome_of_names (h : Names v s) (w : World AnyClient) : Outcome v w := by
  obtain ⟨_, _, -, -, -, hvalid⟩ := id h
  obtain ⟨hgroup, happ, -⟩ := Site.validate_eq_ok_iff.1 hvalid
  obtain ⟨hanswer, hglanced, hlog⟩ := AnyClient.getWebApp_says hgroup happ w
  obtain ⟨hresult, hclient, hnotices⟩ := check_of_names h w
  -- from here on the client counts only by what it says
  generalize (Client.getWebApp s.resourceGroup s.webApp w).1 = q at hanswer hresult hnotices
  rw [hlog] at hnotices
  have hunique {t : Site} (ht : Names v t) : t = s :=
    Except.ok.inj ((site_eq_ok_iff.2 ht).symm.trans (site_eq_ok_iff.2 h))
  constructor
  case unnamed => exact fun hnone => absurd h (hnone s)
  case asked =>
    intro t ht
    cases hunique ht
    exact ⟨asked_of_names h w, hclient ▸ hglanced⟩
  case missing =>
    intro app group subscription
    have hother (e : Error) (he : q = .error e) : e ≠ .siteNotFound app group subscription := by
      subst he
      exact hanswer.ne_siteNotFound app group subscription
    rw [hresult, conclude_eq_siteNotFound_iff hother, ← hanswer.ok_iff]
    constructor
    · rintro ⟨hnone, htold⟩
      exact ⟨s, h, hnone, htold⟩
    · rintro ⟨t, ht, htold⟩
      cases hunique ht
      exact htold
  case found =>
    intro r
    rw [hresult, conclude_eq_ok_iff, ← hanswer.ok_iff]
    constructor
    · intro hr
      exact ⟨s, h, hr⟩
    · rintro ⟨t, ht, hr⟩
      cases hunique ht
      exact hr
  case failed =>
    intro t r ht hr hstatus hgood
    cases hunique ht
    rw [hr] at hanswer
    obtain ⟨cause, rfl, hcause⟩ := hanswer.eq_operation hstatus hgood
    exact ⟨cause, hresult, hcause⟩
  case injected =>
    intro t m e ht hm hfault
    cases hunique ht
    rw [hm] at hanswer
    rw [hresult, hanswer.eq_injected hfault]
    rfl
  case published =>
    intro r hr
    rw [hnotices, conclude_eq_ok_iff.1 (hresult.symm.trans hr)]
    rfl
  case silent =>
    intro e he
    rw [hnotices, notices_of_conclude_eq_error (hresult.symm.trans he), List.append_nil]

end Health

end WebAppTargets
