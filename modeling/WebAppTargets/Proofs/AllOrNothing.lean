import WebAppTargets.Proofs.Closing
import WebAppTargets.Proofs.Outcome
import WebAppTargets.Proofs.Session

namespace WebAppTargets

namespace Discovery

section Asked

variable {σ : Type} [Client σ]

def recorded (make : Config → Except Error σ) (config : Config) : Except Error (Recorder σ) :=
  (make config).map fun c => { inner := c }

def asked (make : Config → Except Error σ) (v : Variables) (config : Config) : List Asked :=
  ((run (recorded make) v config).client.map (·.history)).getD []

end Asked

inductive Disabled (v : Variables) : Prop
  | noContext (h : v.IsBlank Variable.discoveryContext)
  | badContext {text : String} {e : Error} (h : v.nonBlank? Variable.discoveryContext = some text)
      (hparse : Context.parse text = .error e)
  | noSubscription {text : String} {context : Context}
      (h : v.nonBlank? Variable.discoveryContext = some text) (hparse : Context.parse text = .ok context)
      (hblank : Text.isBlankText context.account.subscription)
  | noResourceGroup (h : v.IsBlank Variable.resourceGroup)

inductive Planned (v : Variables) : Except Obstacle (Context × String) → Prop
  | disabled (h : Disabled v) (o : Obstacle) : Planned v (.error o)
  | enabled (h : ¬Disabled v) {text : String} {context : Context} {resourceGroup : String}
      (htext : v.nonBlank? Variable.discoveryContext = some text)
      (hparse : Context.parse text = .ok context)
      (hgroup : v.nonBlank? Variable.resourceGroup = some resourceGroup) :
      Planned v (.ok (context, resourceGroup))

theorem not_disabled {v : Variables} {text : String} {context : Context} {resourceGroup : String}
    (htext : v.nonBlank? Variable.discoveryContext = some text)
    (hparse : Context.parse text = .ok context)
    (hsubscription : Text.isBlankText context.account.subscription = false)
    (hgroup : v.nonBlank? Variable.resourceGroup = some resourceGroup) : ¬Disabled v := by
  rintro (h | ⟨h, hparse'⟩ | ⟨h, hparse', hblank⟩ | h)
  · simp [Variables.nonBlank?_eq_none_iff.2 h] at htext
  · obtain rfl := Option.some.inj (htext.symm.trans h)
    simp [hparse] at hparse'
  · obtain rfl := Option.some.inj (htext.symm.trans h)
    obtain rfl := Except.ok.inj (hparse.symm.trans hparse')
    simp [hsubscription] at hblank
  · simp [Variables.nonBlank?_eq_none_iff.2 h] at hgroup

theorem planned (v : Variables) : Planned v (plan v) := by
  unfold plan
  cases htext : v.nonBlank? Variable.discoveryContext with
  | none => exact .disabled (.noContext (Variables.nonBlank?_eq_none_iff.1 htext)) _
  | some text =>
      simp only [pure_bind]
      cases hparse : Context.parse text with
      | error e => exact .disabled (.badContext htext hparse) _
      | ok context =>
          by_cases hblank : Text.isBlankText context.account.subscription
          · have hnone : (!context.account.hasSubscription) = true := by simp [Account.hasSubscription, hblank]
            simp only [Except.mapError, bind, Except.bind, if_pos hnone]
            exact .disabled (.noSubscription htext hparse hblank) _
          · rw [Bool.not_eq_true] at hblank
            have hsome : ¬(!context.account.hasSubscription) = true := by
              simp [Account.hasSubscription, hblank]
            simp only [Except.mapError, bind, Except.bind, if_neg hsome]
            cases hgroup : v.nonBlank? Variable.resourceGroup with
            | none => exact .disabled (.noResourceGroup (Variables.nonBlank?_eq_none_iff.1 hgroup)) _
            | some rg => exact .enabled (not_disabled htext hparse hblank hgroup) htext hparse hgroup

section Run

variable {σ : Type} [Client σ] {make : Config → Except Error σ} {v : Variables} {config : Config}
  {context : Context} {resourceGroup : String}

theorem run_of_plan_eq_error {o : Obstacle} (h : plan v = .error o) :
    run make v config = { outcome := .ok [], log := [.line .warn o.message] } := by
  rw [run, h]

theorem asked_of_plan_eq_error {o : Obstacle} (h : plan v = .error o) : asked make v config = [] := by
  rw [asked, run_of_plan_eq_error h]
  rfl

theorem run_of_make_eq_error {e : Error} (hplan : plan v = .ok (context, resourceGroup))
    (hmake : make (config.withAccount context.account) = .error e) :
    run make v config = { outcome := .error e, config := config.withAccount context.account } := by
  rw [run, hplan]
  simp only [hmake]

theorem asked_of_make_eq_error {e : Error} (hplan : plan v = .ok (context, resourceGroup))
    (hmake : make (config.withAccount context.account) = .error e) : asked make v config = [] := by
  have hrecorded : recorded make (config.withAccount context.account) = .error e := by
    rw [recorded, hmake]
    rfl
  rw [asked, run_of_make_eq_error hplan hrecorded]
  rfl

theorem run_of_made {c : σ} (hplan : plan v = .ok (context, resourceGroup))
    (hmake : make (config.withAccount context.account) = .ok c) :
    run make v config = {
      outcome := (session context.scope resourceGroup { client := c }).1
      log := (session context.scope resourceGroup { client := c }).2.log
      trace := (session context.scope resourceGroup { client := c }).2.trace
      config := config.withAccount context.account
      client := (session context.scope resourceGroup { client := c }).2.client } := by
  rw [run, hplan]
  simp only [hmake]

open Recorder (recording LeadTo)

theorem asked_of_made {c : σ} (hplan : plan v = .ok (context, resourceGroup))
    (hmake : make (config.withAccount context.account) = .ok c) :
    ∃ l k, asked make v config = l ++ k ∧ (∀ a ∈ l, IsSearch a.call) ∧
      LeadTo l (session context.scope resourceGroup { client := c }).1 ∧ ∀ a ∈ k, a.call = .close := by
  have hrecorded : recorded make (config.withAccount context.account) = .ok { inner := c } := by
    rw [recorded, hmake]
    rfl
  obtain ⟨l, k, hhistory, hsearch, hlead, hclose⟩ :=
    session_history context.scope resourceGroup (recording { client := c })
  obtain ⟨hresult, -⟩ := Recorder.alike.session context.scope resourceGroup
    (Recorder.pass_alike _ _) (fun _ _ h => congrArg Client.name h) _ _
    (Recorder.recording_alike { client := c })
  refine ⟨l, k, ?_, hsearch, hresult ▸ hlead, hclose⟩
  rw [asked, run_of_made hplan hrecorded]
  exact hhistory

end Run

section AllOrNothing

variable (make : Config → Except Error AnyClient) (v : Variables) (config : Config)

theorem session_closing (scope : Scope) (resourceGroup : String) (c : AnyClient) (e : Option Error) :
    (session scope resourceGroup { client := c.closing e }).1 =
        (session scope resourceGroup { client := c }).1 ∧
      (session scope resourceGroup { client := c.closing e }).2.log =
        (session scope resourceGroup { client := c }).2.log := by
  obtain ⟨hresult, hlog, -⟩ := session_spec scope resourceGroup AnyClient.looks { client := c }
  obtain ⟨hresult', hlog', -⟩ :=
    session_spec scope resourceGroup AnyClient.looks { client := c.closing e }
  obtain ⟨hsame, -⟩ := search_alike AnyClient.closing_alike scope resourceGroup
    { client := c } { client := c.closing e } ⟨rfl, rfl, rfl⟩
  rw [← hsame] at hresult' hlog'
  exact ⟨hresult'.trans hresult.symm, hlog'.trans hlog.symm⟩

/-- Something of a run fails with this error: no client can be made, or a call fails. Closing does not
count. -/
inductive Fails (e : Error) : Prop
  | construction {used : Config} (hused : (run make v config).config = some used)
      (h : make used = .error e)
  | call {a : Asked} (ha : a ∈ asked make v config) (hcall : a.call ≠ .close) (h : a.fault = some e)

/-- What a run finds: the variables say where and for which account to look, and these are the matches
among all that the listings there give. -/
inductive Finds (found : List Match) : Prop
  | mk {text : String} {context : Context} {resourceGroup : String} {c : AnyClient}
      {listed : List (Resource × List Resource)}
      (htext : v.nonBlank? Variable.discoveryContext = some text)
      (hparse : Context.parse text = .ok context)
      (hgroup : v.nonBlank? Variable.resourceGroup = some resourceGroup)
      (hmake : make (config.withAccount context.account) = .ok c) (hlisted : Gives c resourceGroup listed)
      (hfound : found = context.scope.scan (listed.flatMap fun e => e.1 :: e.2))

structure AllOrNothing : Prop where
  disabled : Disabled v → (run make v config).outcome = .ok [] ∧
    (∃ text, (run make v config).log = [.line .warn text]) ∧ (run make v config).config = none ∧
    (run make v config).client = none ∧ asked make v config = []
  failed : ∀ e, Fails make v config e →
    (run make v config).outcome = .error e ∧ (run make v config).log = []
  /-- Any other run tells what it gives: nothing else in the log is taken for a message. -/
  reported : ¬Disabled v → (∀ e, ¬Fails make v config e) →
    ∃ found, Finds make v config found ∧ (run make v config).outcome = .ok found ∧
      (run make v config).log.accepted = found.map (·.message.text)
  closing : ∀ e, (run (fun c => (make c).map (·.closing e)) v config).outcome =
      (run make v config).outcome ∧
    (run (fun c => (make c).map (·.closing e)) v config).log = (run make v config).log
  calls : ∀ a ∈ asked make v config, a.call.IsLook
  looked : ∀ used c c', (run make v config).config = some used → make used = .ok c →
    (run make v config).client = some c' → c.Looked c'

variable {make v config} {context : Context} {resourceGroup : String}

theorem allOrNothing_of_plan_eq_error {o : Obstacle} (h : plan v = .error o) (hdisabled : Disabled v) :
    AllOrNothing make v config := by
  have hrun : run make v config = _ := run_of_plan_eq_error h
  have hasked : asked make v config = [] := asked_of_plan_eq_error h
  constructor
  case disabled =>
    rw [hrun]
    exact fun _ => ⟨rfl, ⟨_, rfl⟩, rfl, rfl, hasked⟩
  case failed =>
    rintro e (⟨hused, -⟩ | ⟨ha, -, -⟩)
    · rw [hrun] at hused
      cases hused
    · simp [hasked] at ha
  case reported => exact fun hnot => absurd hdisabled hnot
  case closing =>
    intro e
    rw [hrun, run_of_plan_eq_error h]
    exact ⟨rfl, rfl⟩
  case calls => simp [hasked]
  case looked =>
    intro used c c' hused
    rw [hrun] at hused
    cases hused

theorem allOrNothing_of_make_eq_error {e : Error} (hplan : plan v = .ok (context, resourceGroup))
    (hmake : make (config.withAccount context.account) = .error e) (henabled : ¬Disabled v) :
    AllOrNothing make v config := by
  have hrun := run_of_make_eq_error hplan hmake
  have hasked := asked_of_make_eq_error hplan hmake
  constructor
  case disabled => exact fun hdisabled => absurd hdisabled henabled
  case failed =>
    rintro d (⟨hused, hd⟩ | ⟨ha, -, -⟩)
    · rw [hrun] at hused ⊢
      cases hused
      rw [hmake] at hd
      cases hd
      exact ⟨rfl, rfl⟩
    · simp [hasked] at ha
  case reported => exact fun _ hnone => absurd (.construction (by rw [hrun]) hmake) (hnone e)
  case closing =>
    intro d
    rw [hrun, run_of_make_eq_error (e := e) hplan (by rw [hmake]; rfl)]
    exact ⟨rfl, rfl⟩
  case calls => simp [hasked]
  case looked =>
    intro used c c' _ _ hc
    rw [hrun] at hc
    cases hc

theorem allOrNothing_of_made {text : String} {c : AnyClient} (hplan : plan v = .ok (context, resourceGroup))
    (htext : v.nonBlank? Variable.discoveryContext = some text) (hparse : Context.parse text = .ok context)
    (hgroup : v.nonBlank? Variable.resourceGroup = some resourceGroup)
    (hmake : make (config.withAccount context.account) = .ok c) (henabled : ¬Disabled v) :
    AllOrNothing make v config := by
  have hrun := run_of_made hplan hmake
  obtain ⟨l, k, hasked, hsearch, hlead, hclose⟩ := asked_of_made hplan hmake
  obtain ⟨hresult, hlog, hlooked⟩ :=
    session_spec context.scope resourceGroup AnyClient.looks { client := c }
  rw [← hresult, List.nil_append] at hlog
  constructor
  case disabled => exact fun hdisabled => absurd hdisabled henabled
  case failed =>
    rintro e (⟨hused, he⟩ | @⟨a, ha, hcall, he⟩)
    · rw [hrun] at hused
      cases hused
      simp [hmake] at he
    · rw [hasked] at ha
      have hal : a ∈ l := (List.mem_append.1 ha).resolve_right fun hak => hcall (hclose a hak)
      have herror := hlead.eq_error hal he
      rw [herror] at hlog
      rw [hrun]
      exact ⟨herror, hlog⟩
  case reported =>
    intro _ hnone
    have hfaults : ∀ a ∈ l, a.fault = none := by
      intro a ha
      by_contra hfault
      obtain ⟨e, he⟩ := Option.ne_none_iff_exists'.1 hfault
      exact hnone e (.call (hasked ▸ List.mem_append_left k ha) (hsearch a ha).2 he)
    obtain ⟨found, hfound⟩ := hlead.eq_ok hfaults
    rw [hfound] at hlog
    obtain ⟨listed, hlisted, hscan⟩ := gives_of_search (hresult.symm.trans hfound)
    refine ⟨found, .mk htext hparse hgroup hmake hlisted hscan, ?_, ?_⟩
    · rw [hrun]
      exact hfound
    · rw [hrun, ← accepted_announcements]
      exact congrArg Log.accepted hlog
  case closing =>
    intro e
    have hrun' : run (fun c => (make c).map (·.closing e)) v config = _ :=
      run_of_made (c := c.closing e) hplan (by rw [hmake]; rfl)
    rw [hrun, hrun']
    exact session_closing context.scope resourceGroup c e
  case calls =>
    rw [hasked]
    refine List.forall_mem_append.2 ⟨fun a ha => (hsearch a ha).1, fun a ha => ?_⟩
    rw [hclose a ha]
    trivial
  case looked =>
    rw [hrun]
    rintro _ d c' ⟨⟩ hd ⟨⟩
    obtain rfl := Except.ok.inj (hmake.symm.trans hd)
    exact hlooked

/-- Whatever the variables are and whatever client is made for them: a run is disabled, or it fails and
announces nothing, or it announces all that it gives. It never changes what it looks at. -/
theorem run_all_or_nothing (make : Config → Except Error AnyClient) (v : Variables)
    (config : Config) : AllOrNothing make v config := by
  have hplanned := planned v
  cases hplan : plan v with
  | error o =>
      rw [hplan] at hplanned
      cases hplanned with
      | disabled h => exact allOrNothing_of_plan_eq_error hplan h
  | ok p =>
      rw [hplan] at hplanned
      cases hplanned with
      | @enabled h text context rg htext hparse hgroup =>
          cases hmake : make (config.withAccount context.account) with
          | error e => exact allOrNothing_of_make_eq_error hplan hmake h
          | ok c => exact allOrNothing_of_made hplan htext hparse hgroup hmake h

end AllOrNothing

end Discovery

end WebAppTargets
