import WebAppTargets.Proofs.Exchange
import WebAppTargets.Proofs.Outcome
import WebAppTargets.Proofs.Parts
import WebAppTargets.Proofs.Recorder

namespace WebAppTargets

/-- Something missing, a name against the rules, or a text that is no such JSON; and the error does not
come from a call. -/
def Error.IsBare : Error → Prop
  | .required _ | .invalidName _ | .json _ => True
  | _ => False

def Call.IsAbout (s : Site) : Call → Prop
  | .getAppSettings t | .putAppSettings t | .putSticky t | .getConnections t | .putConnections t =>
      t = s
  | _ => False

namespace Action

variable {σ α β : Type} {P : Error → Prop}

def FailsWith (P : Error → Prop) (x : Action σ α) : Prop := ∀ w e, (x w).1 = .error e → P e

namespace FailsWith

theorem bind {x : Action σ α} {f : α → Action σ β} (hx : FailsWith P x)
    (hf : ∀ a, FailsWith P (f a)) : FailsWith P (x >>= f) := by
  intro w e he
  cases hr : (x w).1 with
  | error d =>
      rw [bind_error (Prod.ext hr rfl)] at he
      cases he
      exact hx w _ hr
  | ok a =>
      rw [bind_ok (Prod.ext hr rfl)] at he
      exact hf a _ e he

theorem of_ok {x : Action σ α} (h : ∀ w, ∃ a, (x w).1 = .ok a) : FailsWith P x := by
  intro w e he
  obtain ⟨a, ha⟩ := h w
  rw [ha] at he
  cases he

theorem value (a : α) : FailsWith P (pure a : Action σ α) := of_ok fun _ => ⟨a, rfl⟩

theorem write (level : Level) (text : String) : FailsWith P (Action.write level text : Action σ Unit) :=
  of_ok fun _ => ⟨(), rfl⟩

theorem emit (t : Trace) : FailsWith P (Action.emit t : Action σ Unit) := of_ok fun _ => ⟨(), rfl⟩

theorem composes : Composes (fun _ x => FailsWith P x : ∀ α, Action σ α → Prop) := ⟨value, emit, bind⟩

theorem client : FailsWith P (Action.client : Action σ σ) := of_ok fun w => ⟨w.client, rfl⟩

theorem modify (f : σ → σ) : FailsWith P (Action.modify f) := of_ok fun _ => ⟨(), rfl⟩

theorem fail {e : Error} (h : P e) : FailsWith P (Action.fail e : Action σ α) := by
  rintro _ _ ⟨⟩
  exact h

theorem inContext {f : Error → Error} (h : ∀ e, P (f e)) (x : Action σ α) :
    FailsWith P (Action.inContext f x) := by
  intro w e he
  obtain ⟨d, -, rfl⟩ := mapError_eq_error_iff.1 he
  exact h d

theorem either {x : Action Memory α} {y : Action Rest α} (hx : FailsWith P x) (hy : FailsWith P y) :
    FailsWith P (AnyClient.either x y) := by
  rintro ⟨c, log, trace⟩ e he
  cases c with
  | memory m => exact hx ⟨m, log, trace⟩ e he
  | rest r => exact hy ⟨r, log, trace⟩ e he

end FailsWith

end Action

/-- On a site with valid names, the calls that read and write settings fail with such errors only. -/
structure Client.FailsWith (P : Error → Prop) (σ : Type) [Client σ] : Prop where
  getAppSettings {s : Site} (h : s.validate = .ok ()) :
    Action.FailsWith P (Client.getAppSettings s : Action σ _)
  putAppSettings {s : Site} (h : s.validate = .ok ()) (properties : Table String) :
    Action.FailsWith P (Client.putAppSettings s properties : Action σ Unit)
  putSticky {s : Site} (h : s.validate = .ok ()) (names : NameSet) :
    Action.FailsWith P (Client.putSticky s names : Action σ Unit)
  getConnections {s : Site} (h : s.validate = .ok ()) :
    Action.FailsWith P (Client.getConnections s : Action σ _)
  putConnections {s : Site} (h : s.validate = .ok ()) (connections : Table ConnectionString) :
    Action.FailsWith P (Client.putConnections s connections : Action σ Unit)

section Clients

open WebAppTargets.Action

variable {P : Error → Prop}

theorem Memory.call_failsWith (h : ∀ reason, P (.other reason)) (c : Call)
    (fault : Memory → Option Error) : FailsWith P (call c fault) := by
  refine .bind (.modify _) fun _ => .bind .client fun m => ?_
  cases fault m with
  | none => exact .value ()
  | some e => exact .fail (h _)

theorem Memory.failsWith (h : ∀ reason, P (.other reason)) : Client.FailsWith P Memory where
  getAppSettings _ := .bind (call_failsWith h _ _) fun _ => .bind .client fun _ => .value _
  putAppSettings _ _ := .bind (call_failsWith h _ _) fun _ => .modify _
  putSticky _ _ := .bind (call_failsWith h _ _) fun _ => .modify _
  getConnections _ := .bind (call_failsWith h _ _) fun _ => .bind .client fun _ => .value _
  putConnections _ _ := .bind (call_failsWith h _ _) fun _ => .modify _

theorem Rest.locate_failsWith {address : Rest → Except Error String}
    (h : ∀ r, ∃ text, address r = .ok text) (part : String) : FailsWith P (locate address part) := by
  refine .of_ok fun w => ?_
  obtain ⟨text, htext⟩ := h w.client
  exact ⟨_, (locate_ends htext part w rfl).1⟩

/-- The address of a valid site is never refused, and all that comes after it stands in a context. -/
theorem Rest.failsWith (h : ∀ operation site cause, P (.operation "arm" operation site cause)) :
    Client.FailsWith P Rest := by
  have hsite {s : Site} (hs : s.validate = .ok ()) (part : String) :
      FailsWith P (locate (·.siteUrl s) part) :=
    locate_failsWith (fun r => ⟨_, siteUrl_eq r hs⟩) part
  have hduring {α : Type} (operation site : String) (x : Action Rest α) :
      FailsWith P (during operation site x) := .inContext (h operation site) x
  constructor
  · intro s hs
    refine .bind (hsite hs _) fun _ => .bind (hduring _ _ _) fun _ => ?_
    exact .bind (hduring _ _ _) fun _ => .value _
  · intro s hs properties
    exact .bind (hsite hs _) fun _ => .bind (hduring _ _ _) fun _ => .value ()
  · intro s hs names
    obtain ⟨hgroup, happ, -⟩ := Site.validate_eq_ok_iff.1 hs
    refine .bind (hduring _ _ _) fun _ => ?_
    refine .bind (locate_failsWith (fun r => ⟨_, webAppUrl_eq r hgroup happ⟩) _) fun _ => ?_
    exact .bind (hduring _ _ _) fun _ => .value ()
  · intro s hs
    exact .bind (hsite hs _) fun _ => hduring _ _ _
  · intro s hs connections
    exact .bind (hsite hs _) fun _ => .bind (hduring _ _ _) fun _ => .value ()

theorem AnyClient.failsWith (hm : Client.FailsWith P Memory) (hr : Client.FailsWith P Rest) :
    Client.FailsWith P AnyClient where
  getAppSettings h := .either (hm.getAppSettings h) (hr.getAppSettings h)
  putAppSettings h t := .either (hm.putAppSettings h t) (hr.putAppSettings h t)
  putSticky h names := .either (hm.putSticky h names) (hr.putSticky h names)
  getConnections h := .either (hm.getConnections h) (hr.getConnections h)
  putConnections h t := .either (hm.putConnections h t) (hr.putConnections h t)

theorem AnyClient.failsWith_not_isBare : Client.FailsWith (¬·.IsBare) AnyClient :=
  failsWith (Memory.failsWith fun _ => id) (Rest.failsWith fun _ _ _ => id)

end Clients

namespace Reconcile

open WebAppTargets.Action

variable {σ : Type} [Client σ] {P : Error → Prop} {s : Site} {v : Variables}

section Site

theorem site_failsWith (h : Client.FailsWith P σ) (hs : s.validate = .ok ()) (d : Desired) :
    FailsWith P (site s d : Action σ Unit) := by
  have hparts : Parts (fun _ x => FailsWith P x : ∀ α, Action σ α → Prop) s :=
    { write := .write
      getAppSettings := h.getAppSettings hs
      putAppSettings := h.putAppSettings hs
      putSticky := h.putSticky hs
      getConnections := h.getConnections hs
      putConnections := h.putConnections hs }
  exact hparts.site FailsWith.composes d

open Recorder (Stops)

theorem site_stops (s : Site) (d : Desired) :
    Stops (Call.IsAbout s) (site s d : Action (Recorder σ) Unit) := by
  have hpass {α : Type} {c : Call} (hc : c.IsAbout s) (x : Action σ α) :
      Stops (Call.IsAbout s) (Recorder.pass c x) := .pass hc x
  have hparts : Parts (fun _ x => Stops (Call.IsAbout s) x : ∀ α, Action (Recorder σ) α → Prop) s :=
    { write := .write
      getAppSettings := hpass (c := .getAppSettings s) rfl _
      putAppSettings := fun _ => hpass (c := .putAppSettings s) rfl _
      putSticky := fun _ => hpass (c := .putSticky s) rfl _
      getConnections := hpass (c := .getConnections s) rfl _
      putConnections := fun _ => hpass (c := .putConnections s) rfl _ }
  exact hparts.site Stops.composes d

end Site

inductive Planned (v : Variables) : Except Error (Option (Site × Desired)) → Prop
  | nothing (happ : v.IsBlank Variable.appSettings) (hconnections : v.IsBlank Variable.connectionStrings) :
      Planned v (.ok none)
  | faulty (hblank : ¬(v.IsBlank Variable.appSettings ∧ v.IsBlank Variable.connectionStrings))
      {e : Error} (he : e.IsBare) : Planned v (.error e)
  | valid (hblank : ¬(v.IsBlank Variable.appSettings ∧ v.IsBlank Variable.connectionStrings))
      {s : Site} {d : Desired} (hs : s.validate = .ok ()) (hd : Desired.ofVariables v = .ok d) :
      Planned v (.ok (some (s, d)))

theorem isBare_of_ofVariables {e : Error} (h : Desired.ofVariables v = .error e) : e.IsBare := by
  have hitems {α : Type} {d : Json.Decoder α} {name : String} {e : Error}
      (h : Desired.items d v name = .error e) : e.IsBare := by
    unfold Desired.items at h
    split at h
    · obtain ⟨_, -, rfl⟩ := mapError_eq_error_iff.1 h
      trivial
    · cases h
  unfold Desired.ofVariables at h
  cases ha : Desired.items AppSetting.decode v Variable.appSettings with
  | error d =>
      rw [ha] at h
      cases h
      exact hitems ha
  | ok a =>
      cases hc : Desired.items ConnectionSetting.decode v Variable.connectionStrings with
      | error d =>
          rw [ha, hc] at h
          cases h
          exact hitems hc
      | ok c =>
          rw [ha, hc] at h
          cases h

theorem isBare_of_validate {e : Error} (h : s.validate = .error e) : e.IsBare := by
  obtain ⟨_, -, rfl⟩ := mapError_eq_error_iff.1 h
  trivial

theorem planned (v : Variables) : Planned v (plan v) := by
  unfold plan
  split
  · rename_i hblank
    rw [Bool.and_eq_true, Option.isNone_iff_eq_none, Option.isNone_iff_eq_none,
      Variables.nonBlank?_eq_none_iff, Variables.nonBlank?_eq_none_iff] at hblank
    exact .nothing hblank.1 hblank.2
  · rename_i hblank
    rw [Bool.and_eq_true, Option.isNone_iff_eq_none, Option.isNone_iff_eq_none,
      Variables.nonBlank?_eq_none_iff, Variables.nonBlank?_eq_none_iff] at hblank
    cases happ : v.nonBlank? Variable.webApp with
    | none => exact .faulty hblank trivial
    | some app =>
        cases hgroup : v.nonBlank? Variable.resourceGroup with
        | none => exact .faulty hblank trivial
        | some group =>
            cases hs : (Site.parse group app (v.get? Variable.slot)).validate with
            | error e =>
                simp only [Option.elim, bind, Except.bind, hs]
                exact .faulty hblank (isBare_of_validate hs)
            | ok _ =>
                cases hd : Desired.ofVariables v with
                | error e =>
                    simp only [Option.elim, bind, Except.bind, hs]
                    exact .faulty hblank (isBare_of_ofVariables hd)
                | ok d =>
                    simp only [Option.elim, bind, Except.bind, hs]
                    exact .valid hblank hs hd

/-- A run that ends like this has found nothing to do, or something wrong with the variables. -/
def Declined : Except Error (Option Site) → Prop
  | .ok s => s = none
  | .error e => e.IsBare

structure Untouched (v : Variables) (w : World σ) : Prop where
  asked : Recorder.asked (run v) w = []
  client : (run v w).2.client = w.client
  log : (run v w).2.log = w.log

structure OnSite (v : Variables) (w : World σ) (s : Site) : Prop where
  valid : s.validate = .ok ()
  asked : ∀ a ∈ Recorder.asked (run v) w, a.call.IsAbout s
  result : ∀ t, (run v w).1 = .ok t → t = some s

section Plan

theorem run_of_plan_eq_error {e : Error} (h : plan v = .error e) :
    (run v : Action σ _) = Action.fail e := by
  funext w
  exact bind_error (by rw [h]; rfl)

theorem run_of_plan_eq_none (h : plan v = .ok none) :
    (run v : Action σ _) = (do
      Action.emit [⟨.debug, "no app settings or connection strings configured", []⟩]
      return none) := by
  funext w
  exact bind_ok (a := none) (by rw [h]; rfl)

theorem run_of_plan_eq_some {d : Desired} (h : plan v = .ok (some (s, d))) :
    (run v : Action σ _) = (do site s d; return some s) := by
  funext w
  exact bind_ok (a := some (s, d)) (by rw [h]; rfl)

theorem untouched_of_plan_eq_error {e : Error} (h : plan v = .error e) (w : World σ) :
    Untouched v w where
  asked := by rw [Recorder.asked, run_of_plan_eq_error h]; rfl
  client := by rw [run_of_plan_eq_error h]; rfl
  log := by rw [run_of_plan_eq_error h]; rfl

theorem untouched_of_plan_eq_none (h : plan v = .ok none) (w : World σ) : Untouched v w where
  asked := by rw [Recorder.asked, run_of_plan_eq_none h]; rfl
  client := by rw [run_of_plan_eq_none h]; rfl
  log := by rw [run_of_plan_eq_none h]; rfl

theorem onSite_of_plan_eq_some {d : Desired} (h : plan v = .ok (some (s, d)))
    (hs : s.validate = .ok ()) (w : World σ) : OnSite v w s where
  valid := hs
  asked := by
    have hstops : Recorder.Stops (Call.IsAbout s) (run v : Action (Recorder σ) _) := by
      rw [run_of_plan_eq_some h]
      exact .bind (site_stops s d) fun _ => .value _
    obtain ⟨l, hl, habout, -⟩ := hstops (Recorder.recording w)
    rw [Recorder.asked, hl]
    exact habout
  result t ht := by
    rw [run_of_plan_eq_some h] at ht
    cases hr : (site s d w).1 with
    | error e =>
        rw [bind_error (Prod.ext hr rfl)] at ht
        cases ht
    | ok _ =>
        rw [bind_ok (Prod.ext hr rfl)] at ht
        cases ht
        rfl

theorem not_declined_of_plan_eq_some (hclient : Client.FailsWith (¬·.IsBare) σ) {d : Desired}
    (h : plan v = .ok (some (s, d))) (hs : s.validate = .ok ()) (w : World σ) :
    ¬Declined (run v w).1 := by
  cases hr : (run v w).1 with
  | error e =>
      have hfails : FailsWith (¬·.IsBare) (run v : Action σ _) := by
        rw [run_of_plan_eq_some h]
        exact .bind (site_failsWith hclient hs d) fun _ => .value _
      exact hfails w e hr
  | ok t =>
      rw [(onSite_of_plan_eq_some h hs w).result t hr]
      exact Option.some_ne_none s

end Plan

/-- The variable has content, but not a list of connection strings. -/
def HasMalformedConnections (v : Variables) : Prop :=
  ∃ text e, v.nonBlank? Variable.connectionStrings = some text ∧
    Json.decodeText (Json.Decoder.list ConnectionSetting.decode) text = .error e

theorem ofVariables_ne_ok_of_malformed (h : HasMalformedConnections v) (d : Desired) :
    Desired.ofVariables v ≠ .ok d := by
  obtain ⟨text, e, htext, he⟩ := h
  intro hd
  obtain ⟨_, -, hd⟩ := bind_eq_ok_iff.1 hd
  obtain ⟨c, hc, -⟩ := bind_eq_ok_iff.1 hd
  simp only [Desired.items, htext, he] at hc
  cases hc

/-- However a run ends, either nothing was touched or it was all about one valid site. Which of both it
was can be told from the result. -/
theorem run_untouched_or_on_valid_site (v : Variables) (w : World AnyClient) :
    (Declined (run v w).1 → Untouched v w) ∧
    (¬Declined (run v w).1 → ∃ s, OnSite v w s) ∧
    (HasMalformedConnections v → (∃ e, (run v w).1 = .error e) ∧ Untouched v w) ∧
    ((run v w).1 = .ok none ↔
      v.IsBlank Variable.appSettings ∧ v.IsBlank Variable.connectionStrings) := by
  have hplanned := planned v
  cases hplan : plan v with
  | error e =>
      have h := untouched_of_plan_eq_error hplan w
      have hr : (run v w).1 = .error e := by rw [run_of_plan_eq_error hplan]; rfl
      rw [hplan] at hplanned
      cases hplanned with
      | faulty hblank he =>
          rw [hr]
          exact ⟨fun _ => h, fun hd => absurd he hd, fun _ => ⟨⟨e, rfl⟩, h⟩, nofun,
            fun hb => absurd hb hblank⟩
  | ok p =>
      rw [hplan] at hplanned
      cases hplanned with
      | nothing happ hconnections =>
          have h := untouched_of_plan_eq_none hplan w
          have hr : (run v w).1 = .ok none := by rw [run_of_plan_eq_none hplan]; rfl
          rw [hr]
          refine ⟨fun _ => h, fun hd => absurd rfl hd, ?_, fun _ => ⟨happ, hconnections⟩, fun _ => rfl⟩
          rintro ⟨text, e, htext, -⟩
          rw [Variables.nonBlank?_eq_none_iff.2 hconnections] at htext
          cases htext
      | valid hblank hs hd =>
          have hnot := not_declined_of_plan_eq_some AnyClient.failsWith_not_isBare hplan hs w
          refine ⟨fun h => absurd h hnot, fun _ => ⟨_, onSite_of_plan_eq_some hplan hs w⟩,
            fun h => absurd hd (ofVariables_ne_ok_of_malformed h _), ?_, fun hb => absurd hb hblank⟩
          intro hr
          rw [hr] at hnot
          exact absurd rfl hnot

example : HasMalformedConnections (.ofList
    [(Variable.webApp, "my-app"), (Variable.resourceGroup, "rg"),
     (Variable.appSettings, "[]"), (Variable.connectionStrings, "[")]) :=
  ⟨"[", _, rfl, rfl⟩

end Reconcile

end WebAppTargets
