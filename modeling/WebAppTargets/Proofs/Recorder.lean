import WebAppTargets.Proofs.Alike
import WebAppTargets.Proofs.Parts

namespace WebAppTargets

variable {σ α β : Type}

structure Asked where
  call : Call
  fault : Option Error
  deriving DecidableEq

def faultOf : Except Error α → Option Error
  | .ok _ => none
  | .error e => some e

structure Recorder (σ : Type) where
  inner : σ
  history : List Asked := []

namespace Recorder

def pass (c : Call) (x : Action σ α) : Action (Recorder σ) α := fun w =>
  let (r, v) := x { client := w.client.inner, log := w.log, trace := w.trace }
  (r, { client := ⟨v.client, w.client.history ++ [⟨c, faultOf r⟩]⟩, log := v.log, trace := v.trace })

instance [Client σ] : Client (Recorder σ) where
  name r := Client.name r.inner
  init := pass .init Client.init
  close := pass .close Client.close
  listWebApps rg := pass (.listWebApps rg) (Client.listWebApps rg)
  listSlots rg app := pass (.listSlots rg app) (Client.listSlots rg app)
  getWebApp rg app := pass (.getWebApp rg app) (Client.getWebApp rg app)
  getAppSettings site := pass (.getAppSettings site) (Client.getAppSettings site)
  putAppSettings site properties :=
    pass (.putAppSettings site) (Client.putAppSettings site properties)
  putSticky site names := pass (.putSticky site) (Client.putSticky site names)
  getConnections site := pass (.getConnections site) (Client.getConnections site)
  putConnections site connections :=
    pass (.putConnections site) (Client.putConnections site connections)

def Records (r : Recorder σ) (c : σ) : Prop := r.inner = c

theorem pass_alike (c : Call) (x : Action σ α) : Action.Alike Records (pass c x) x := by
  rintro w ⟨_, _, _⟩ ⟨rfl, rfl, rfl⟩
  exact ⟨rfl, rfl, rfl, rfl⟩

theorem alike [Client σ] : Client.Alike (Records (σ := σ)) where
  init := pass_alike _ _
  listWebApps _ := pass_alike _ _
  listSlots _ _ := pass_alike _ _
  getWebApp _ _ := pass_alike _ _
  getAppSettings _ := pass_alike _ _
  putAppSettings _ _ := pass_alike _ _
  putSticky _ _ := pass_alike _ _
  getConnections _ := pass_alike _ _
  putConnections _ _ := pass_alike _ _

def recording (w : World σ) : World (Recorder σ) where
  client := { inner := w.client }
  log := w.log
  trace := w.trace

theorem recording_alike (w : World σ) : World.Alike Records (recording w) w := ⟨rfl, rfl, rfl⟩

def asked (x : Action (Recorder σ) α) (w : World σ) : List Asked :=
  (x (recording w)).2.client.history

/-- The recorder changes nothing of a run but its own history. -/
theorem run_recording [Client σ] (v : Variables) (w : World σ) :
    (Reconcile.run v (recording w)).1 = (Reconcile.run v w).1 ∧
      World.Alike Records (Reconcile.run v (recording w)).2 (Reconcile.run v w).2 :=
  alike.reconcile v _ _ (recording_alike w)

/-- How calls that follow each other end: all go well, or the last one fails. -/
inductive LeadTo : List Asked → Except Error α → Prop
  | value {l : List Asked} (h : ∀ a ∈ l, a.fault = none) (v : α) : LeadTo l (.ok v)
  | error {l : List Asked} (h : ∀ a ∈ l, a.fault = none) (c : Call) (e : Error) :
      LeadTo (l ++ [⟨c, some e⟩]) (.error e)

theorem LeadTo.append {l k : List Asked} {r : Except Error α} (h : ∀ a ∈ l, a.fault = none)
    (hk : LeadTo k r) : LeadTo (l ++ k) r := by
  cases hk with
  | value h' v => exact .value (List.forall_mem_append.2 ⟨h, h'⟩) v
  | error h' c e =>
      rw [← List.append_assoc]
      exact .error (List.forall_mem_append.2 ⟨h, h'⟩) c e

theorem LeadTo.eq_error {l : List Asked} {r : Except Error α} {a : Asked} {e : Error}
    (h : LeadTo l r) (ha : a ∈ l) (hfault : a.fault = some e) : r = .error e := by
  cases h with
  | value h => simp [h a ha] at hfault
  | error h c d =>
      rcases List.mem_append.1 ha with ha | ha
      · simp [h a ha] at hfault
      · rw [List.mem_singleton.1 ha] at hfault
        rw [Option.some.inj hfault]

theorem LeadTo.eq_ok {l : List Asked} {r : Except Error α} (h : LeadTo l r)
    (hl : ∀ a ∈ l, a.fault = none) : ∃ v, r = .ok v := by
  cases h with
  | value _ v => exact ⟨v, rfl⟩
  | error _ c e => simpa using hl ⟨c, some e⟩ (by simp)

/-- The action asks for calls of this kind only, and ends at the first that fails. -/
def Stops (P : Call → Prop) (x : Action (Recorder σ) α) : Prop :=
  ∀ w, ∃ l, (x w).2.client.history = w.client.history ++ l ∧ (∀ a ∈ l, P a.call) ∧
    LeadTo l (x w).1

namespace Stops

variable {P : Call → Prop} {x : Action (Recorder σ) α}

theorem pass {c : Call} (hc : P c) (x : Action σ α) : Stops P (Recorder.pass c x) := by
  intro w
  refine ⟨[_], rfl, by simpa using hc, ?_⟩
  change LeadTo [⟨c, faultOf (x ⟨w.client.inner, w.log, w.trace⟩).1⟩]
    (x ⟨w.client.inner, w.log, w.trace⟩).1
  cases (x ⟨w.client.inner, w.log, w.trace⟩).1 with
  | ok a => exact .value (by simp [faultOf]) a
  | error e => exact .error (l := []) (by simp) c e

theorem bind {f : α → Action (Recorder σ) β} (hx : Stops P x) (hf : ∀ a, Stops P (f a)) :
    Stops P (x >>= f) := by
  intro w
  obtain ⟨l, hl, hP, hlead⟩ := hx w
  cases hr : (x w).1 with
  | error e =>
      rw [Action.bind_error (Prod.ext hr rfl)]
      rw [hr] at hlead
      cases hlead with
      | error h c => exact ⟨_, hl, hP, .error h c e⟩
  | ok a =>
      rw [Action.bind_ok (Prod.ext hr rfl)]
      rw [hr] at hlead
      cases hlead with
      | value h =>
          obtain ⟨k, hk, hP', hlead'⟩ := hf a (x w).2
          exact ⟨l ++ k, by rw [hk, hl, List.append_assoc], List.forall_mem_append.2 ⟨hP, hP'⟩,
            hlead'.append h⟩

theorem quiet (h : ∀ w, (x w).2.client = w.client ∧ ∃ a, (x w).1 = .ok a) : Stops P x := by
  intro w
  obtain ⟨hc, a, ha⟩ := h w
  exact ⟨[], by simp [hc], by simp, ha ▸ .value (by simp) a⟩

theorem value (a : α) : Stops P (pure a : Action (Recorder σ) α) := quiet fun _ => ⟨rfl, a, rfl⟩

theorem write (level : Level) (text : String) :
    Stops P (Action.write level text : Action (Recorder σ) Unit) := quiet fun _ => ⟨rfl, (), rfl⟩

theorem emit (t : Trace) : Stops P (Action.emit t : Action (Recorder σ) Unit) :=
  quiet fun _ => ⟨rfl, (), rfl⟩

theorem composes : Action.Composes (fun _ x => Stops P x : ∀ α, Action (Recorder σ) α → Prop) :=
  ⟨value, emit, bind⟩

end Stops

end Recorder

end WebAppTargets
