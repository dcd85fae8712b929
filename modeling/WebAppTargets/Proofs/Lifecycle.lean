import WebAppTargets.Proofs.Guises
import WebAppTargets.Proofs.Refusal
import WebAppTargets.Proofs.Subscription

namespace WebAppTargets

open WebAppTargets.Action

namespace Operation

def IsValid : Operation → Prop
  | .listWebApps rg => Naming.checkResourceGroup rg = .ok ()
  | .listSlots rg app | .getWebApp rg app =>
      Naming.checkResourceGroup rg = .ok () ∧ Naming.checkWebApp app = .ok ()
  | .getAppSettings s | .putAppSettings s _ | .getConnections s | .putConnections s _ =>
      s.validate = .ok ()
  | .putSticky s _ => s.app.validate = .ok ()

def failure : Operation → Error → Error
  | .listWebApps rg => .operation "arm" "list-web-apps" rg
  | .listSlots _ app => .operation "arm" "list-slots" app
  | .getWebApp _ app => .operation "arm" "get-web-app" app
  | .getAppSettings s => .operation "arm" "get-settings" s.text
  | .putAppSettings s _ => .operation "arm" "put-settings" s.text
  | .putSticky s _ => .operation "arm" "get-slot-settings" s.text
  | .getConnections s => .operation "arm" "get-connection-strings" s.text
  | .putConnections s _ => .operation "arm" "put-connection-strings" s.text

end Operation

variable {σ τ : Type} {R : σ → τ → Prop}

theorem Action.Alike.ends {α : Type} {x : Action σ α} {y : Action τ α} {c c' : σ} {d : τ}
    {q : Except Error α} (h : Action.Alike R x y) (hx : Ends c x q c') (hr : R c d) :
    ∀ w : World τ, w.client = d → (y w).1 = q ∧ R c' (y w).2.client := by
  rintro ⟨_, log, trace⟩ rfl
  obtain ⟨hq, hc⟩ := hx ⟨c, log, trace⟩ rfl
  obtain ⟨hresult, hafter⟩ := h ⟨c, log, trace⟩ _ ⟨hr, rfl, rfl⟩
  exact ⟨hresult.symm.trans hq, hc ▸ hafter.client⟩

theorem Client.Alike.perform [Client σ] [Client τ] (h : Client.Alike R) (op : Operation) :
    Action.Alike R op.perform op.perform := by
  cases op with
  | listWebApps rg => exact .bind (h.listWebApps rg) fun _ => .value ()
  | listSlots rg app => exact .bind (h.listSlots rg app) fun _ => .value ()
  | getWebApp rg app => exact .bind (h.getWebApp rg app) fun _ => .value ()
  | getAppSettings s => exact .bind (h.getAppSettings s) fun _ => .value ()
  | putAppSettings s properties => exact h.putAppSettings s properties
  | putSticky s names => exact h.putSticky s names
  | getConnections s => exact .bind (h.getConnections s) fun _ => .value ()
  | putConnections s connections => exact h.putConnections s connections

namespace Rest

variable {α β : Type} {r : Rest}

/-- The action fails and leaves the client as it was; under the condition it fails with this error. -/
def Refuses (r : Rest) (x : Action Rest α) (p : Prop) (e : Error) : Prop :=
  ∃ d, Ends r x (.error d) r ∧ (p → d = e)

namespace Refuses

variable {x : Action Rest α} {f : α → Action Rest β} {p : Prop} {e : Error}

theorem bind (h : Refuses r x p e) : Refuses r (x >>= f) p e := by
  obtain ⟨d, hends, hd⟩ := h
  exact ⟨d, hends.bind_error, hd⟩

theorem inContext (h : Refuses r x p e) (g : Error → Error) :
    Refuses r (Action.inContext g x) p (g e) := by
  obtain ⟨d, hends, hd⟩ := h
  exact ⟨g d, hends.inContext g, fun hp => congrArg g (hd hp)⟩

theorem locate {address : Rest → Except Error String} {part : String} {f : String → Action Rest α}
    (haddress : p → ∃ text, address r = .ok text) (hf : ∀ url, Ends r (f url) (.error e) r) :
    Refuses r (Rest.locate address part >>= f) p e := by
  cases h : address r with
  | error d =>
      refine ⟨d, (locate_refuses h part).bind_error, fun hp => ?_⟩
      obtain ⟨text, htext⟩ := haddress hp
      cases h.symm.trans htext
  | ok text => exact ⟨e, (locate_ends h part).bind (hf _), fun _ => rfl⟩

end Refuses

section Closed

variable (hopen : ¬r.isOpen)

include hopen

theorem listing_refuses (url : String) : Ends r (listing url) (.error .notAuthenticated) r := by
  refine (Ends.client r).bind ?_
  cases r.network.replies.length with
  | zero => exact (request_refuses hopen _ _ _ _).bind_error
  | succ n => exact (request_refuses hopen _ _ _ _).bind_error

theorem closed_refuses (op : Operation) :
    Refuses r op.perform op.IsValid (op.failure .notAuthenticated) := by
  cases op with
  | listWebApps rg =>
      refine (Refuses.locate (fun h => ⟨_, groupUrl_eq r h⟩) fun url => ?_).bind
      exact ((listing_refuses hopen url).inContext _).bind_error
  | listSlots rg app =>
      refine (Refuses.locate (fun h => ⟨_, webAppUrl_eq r h.1 h.2⟩) fun url => ?_).bind
      exact ((listing_refuses hopen url).inContext _).bind_error
  | getWebApp rg app =>
      refine (Refuses.locate (fun h => ⟨_, webAppUrl_eq r h.1 h.2⟩) fun url => ?_).bind
      exact (request_refuses hopen _ _ url _).attempt.bind (Ends.fail _ _)
  | getAppSettings s =>
      refine (Refuses.locate (fun h => ⟨_, siteUrl_eq r h⟩) fun url => ?_).bind
      exact ((request_refuses hopen _ _ url _).inContext _).bind_error
  | putAppSettings s properties =>
      refine Refuses.locate (fun h => ⟨_, siteUrl_eq r h⟩) fun url => ?_
      exact ((request_refuses hopen _ _ url _).inContext _).bind_error
  | putSticky s names =>
      refine (Refuses.inContext (Refuses.locate (fun h => ?_) fun url => ?_) _).bind
      · obtain ⟨hgroup, happ, -⟩ := Site.validate_eq_ok_iff.1 h
        exact ⟨_, webAppUrl_eq r hgroup happ⟩
      · exact request_refuses hopen _ _ url _
  | getConnections s =>
      refine (Refuses.locate (fun h => ⟨_, siteUrl_eq r h⟩) fun url => ?_).bind
      exact (request_refuses hopen _ _ url _).inContext _
  | putConnections s connections =>
      refine Refuses.locate (fun h => ⟨_, siteUrl_eq r h⟩) fun url => ?_
      exact ((request_refuses hopen _ _ url _).inContext _).bind_error

end Closed

theorem opened_eq_under (network : Network) (c : Config) :
    opened network c = (ofConfig { network with received := [] } c).ready.under
      ⟨c.account.credentials, network.received⟩ := by
  have hnetwork : network = { network with received := [] }.since network.received := by
    rw [Network.since, List.append_nil]
  exact congrArg (opened · c) hnetwork

theorem perform_under (g : Guise) (r : Rest) (op : Operation) :
    ∃ q sent, Ends r op.perform q (r.after sent) ∧
      Ends (r.under g) op.perform q ((r.under g).after sent) := by
  obtain ⟨q, sent, hends, -⟩ := r.perform_confines op
  have hunder : (r.under g).after sent = (r.after sent).under g := by
    simp [under, after, Network.since]
  refine ⟨q, sent, hends, ?_⟩
  rw [hunder]
  exact (guise_alike.perform op).ends hends rfl

end Rest

namespace Lifecycle

inductive Step where
  | init
  | close
  | operation (op : Operation)

namespace Step

def isOperation : Step → Bool
  | .operation _ => true
  | _ => false

def perform {σ : Type} [Client σ] : Step → Action σ Unit
  | .init => Client.init
  | .close => Client.close
  | .operation op => op.perform

end Step

structure Taken where
  step : Step
  outcome : Except Error Unit

def IsOpened (past : List Taken) : Prop :=
  past.reverse.find? (!·.step.isOperation) = some ⟨.init, .ok ()⟩

structure Life (σ : Type) where
  past : List Taken := []
  world : World σ

namespace Life

variable {σ : Type} [Client σ]

def next (l : Life σ) (s : Step) : Life σ where
  past := l.past ++ [⟨s, (s.perform l.world).1⟩]
  world := (s.perform l.world).2

def of (c : σ) (steps : List Step) : Life σ := steps.foldl next { world := { client := c } }

theorem next_of_ends {l : Life σ} {s : Step} {q : Except Error Unit} {c : σ}
    (h : Ends l.world.client s.perform q c) :
    (l.next s).past = l.past ++ [⟨s, q⟩] ∧ (l.next s).world.client = c := by
  obtain ⟨hq, hc⟩ := h l.world rfl
  exact ⟨by rw [next, hq], hc⟩

end Life

variable {past : List Taken} {c : Config} {r : Rest} {w : World Rest}

theorem isOpened_concat_operation (op : Operation) (q : Except Error Unit) :
    IsOpened (past ++ [⟨.operation op, q⟩]) ↔ IsOpened past := by
  simp [IsOpened, Step.isOperation]

theorem isOpened_concat {t : Taken} (h : t.step.isOperation = false) :
    IsOpened (past ++ [t]) ↔ t = ⟨.init, .ok ()⟩ := by
  simp [IsOpened, h]

def CanOpen (c : Config) : Prop :=
  Naming.checkSubscription c.account.subscription = .ok () ∧
    Text.isBlankText (Rest.ofConfig {} c).token = false

/-- What steps like these can have made of a client: it is open as it should be, or not at all. -/
inductive Keeps (c : Config) (past : List Taken) : Rest → Prop
  | opened (network : Network) (h : IsOpened past) (hsound : CanOpen c) :
      Keeps c past (Rest.opened network c)
  | closed (network : Network) (base : String) (h : ¬IsOpened past) :
      Keeps c past { Rest.ofConfig network c with base }

theorem Keeps.ready_eq (h : Keeps c past r) : r.ready = Rest.opened r.network c := by
  cases h <;> rfl

theorem Keeps.not_isOpen (h : Keeps c past r) (hnot : ¬IsOpened past) : ¬r.isOpen := by
  cases h with
  | opened network hopened => exact absurd hopened hnot
  | closed network base => exact Bool.false_ne_true

theorem Keeps.eq_opened (h : Keeps c past r) (hopened : IsOpened past) :
    r = Rest.opened r.network c ∧ CanOpen c := by
  cases h with
  | opened network _ hcan => exact ⟨rfl, hcan⟩
  | closed network base hnot => exact absurd hopened hnot

theorem Keeps.step (h : Keeps c past r) (s : Step) :
    ∃ q r', Ends r s.perform q r' ∧ Keeps c (past ++ [⟨s, q⟩]) r' := by
  have hsame : r.account = c.account ∧ r.token = (Rest.ofConfig {} c).token := by
    cases h <;> exact ⟨rfl, rfl⟩
  cases s with
  | init =>
      by_cases hsound : CanOpen c
      · have hends := Rest.init_ends r (by rw [hsame.1]; exact hsound.1)
          (by rw [hsame.2]; exact hsound.2)
        rw [h.ready_eq] at hends
        exact ⟨.ok (), _, hends, .opened _ ((isOpened_concat rfl).2 rfl) hsound⟩
      · obtain ⟨e, hends⟩ := Rest.init_fails r (by rw [hsame.1, hsame.2]; exact hsound)
        refine ⟨.error e, r, hends, ?_⟩
        cases h with
        -- the configuration does not change, so what was opened before can be opened again
        | opened network hopened hcan => exact absurd hcan hsound
        | closed network base hnot =>
            refine .closed network base fun hopened => ?_
            cases (isOpened_concat rfl).1 hopened
  | close =>
      have hnot : ¬IsOpened (past ++ [⟨.close, .ok ()⟩]) := fun hopened => by
        cases (isOpened_concat rfl).1 hopened
      refine ⟨.ok (), _, Ends.modify _ _, ?_⟩
      cases h <;> exact .closed _ _ hnot
  | operation op =>
      obtain ⟨q, sent, hends, -⟩ := r.perform_confines op
      refine ⟨q, _, hends, ?_⟩
      have hpast : IsOpened (past ++ [⟨.operation op, q⟩]) ↔ IsOpened past :=
        isOpened_concat_operation op q
      cases h with
      | opened network hopened hcan =>
          exact .opened ((Rest.opened network c).after sent).network (hpast.2 hopened) hcan
      | closed network base hnot =>
          exact .closed ((Rest.ofConfig network c).after sent).network base (mt hpast.1 hnot)

theorem Keeps.life {l : Life Rest} (h : Keeps c l.past l.world.client) (steps : List Step) :
    Keeps c (steps.foldl Life.next l).past (steps.foldl Life.next l).world.client := by
  induction steps generalizing l with
  | nil => exact h
  | cons s steps ih =>
      obtain ⟨q, r, hends, hkeeps⟩ := h.step s
      obtain ⟨hpast, hclient⟩ := Life.next_of_ends hends
      apply ih
      rw [hpast, hclient]
      exact hkeeps

theorem network_of_not_isOperation {s : Step} (h : s.isOperation = false) (w : World Rest) :
    (s.perform w).2.client.network = w.client.network := by
  cases s with
  | init =>
      obtain ⟨q, r, hends, hnetwork⟩ :
          ∃ q r, Ends w.client Client.init q r ∧ r.network = w.client.network := by
        by_cases hsound : Naming.checkSubscription w.client.account.subscription = .ok () ∧
            Text.isBlankText w.client.token = false
        · exact ⟨_, _, Rest.init_ends w.client hsound.1 hsound.2, rfl⟩
        · obtain ⟨e, hends⟩ := Rest.init_fails w.client hsound
          exact ⟨_, _, hends, rfl⟩
      exact ((hends w rfl).2 ▸ hnetwork :)
  | close => rfl
  | operation => cases h

theorem Keeps.refuses (h : Keeps c past w.client) (hnot : ¬IsOpened past) (op : Operation) :
    (op.perform w).2.client = w.client ∧
      (op.IsValid → (op.perform w).1 = .error (op.failure .notAuthenticated)) := by
  obtain ⟨e, hends, he⟩ := Rest.closed_refuses (h.not_isOpen hnot) op
  obtain ⟨hresult, hclient⟩ := hends w rfl
  exact ⟨hclient, fun hvalid => he hvalid ▸ hresult⟩

theorem Keeps.sends_like_first (h : Keeps c past w.client) (hopened : IsOpened past) :
    let first := Life.of (Rest.ofConfig { w.client.network with received := [] } c) [.init]
    first.past = [⟨.init, .ok ()⟩] ∧ ∀ op : Operation,
      (op.perform w).1 = (op.perform first.world).1 ∧
      (op.perform w).2.client.network.received =
        w.client.network.received ++ (op.perform first.world).2.client.network.received := by
  intro first
  obtain ⟨hclient, hcan⟩ := h.eq_opened hopened
  let fresh : World Rest :=
    { client := Rest.ofConfig { w.client.network with received := [] } c }
  obtain ⟨hpast, hfirst⟩ : first.past = [⟨.init, .ok ()⟩] ∧ first.world.client = _ :=
    Life.next_of_ends (l := { world := fresh }) (Rest.init_ends fresh.client hcan.1 hcan.2)
  refine ⟨hpast, fun op => ?_⟩
  obtain ⟨q, sent, hends, hlike⟩ := Rest.perform_under
    ⟨c.account.credentials, w.client.network.received⟩ first.world.client op
  -- in that guise the fresh client is the one at hand
  rw [hfirst, ← Rest.opened_eq_under, ← hclient] at hlike
  obtain ⟨hresult, hafter⟩ := hends first.world rfl
  obtain ⟨hresult', hafter'⟩ := hlike w rfl
  rw [hresult, hresult', hafter, hafter', hfirst]
  exact ⟨rfl, rfl⟩

/-- A request is sent by an operation alone, and only when the last opening or closing before it was an
opening that succeeded. At any other time an operation leaves the client as it is, and fails for want of
a sign-in unless a name already breaks the rules. However often the client was opened and closed, once
open it sends the same requests as one that was opened for the first time just before. -/
theorem only_open_client_sends (network : Network) (c : Config) (steps : List Step) :
    let life := Life.of (Rest.ofConfig network c) steps
    (∀ s : Step, (s.perform life.world).2.client.network ≠ life.world.client.network →
      s.isOperation ∧ IsOpened life.past) ∧
    (¬IsOpened life.past → ∀ op : Operation,
      (op.perform life.world).2.client = life.world.client ∧
      (op.IsValid → (op.perform life.world).1 = .error (op.failure .notAuthenticated))) ∧
    (IsOpened life.past →
      let first := Life.of (Rest.ofConfig { life.world.client.network with received := [] } c) [.init]
      first.past = [⟨.init, .ok ()⟩] ∧ ∀ op : Operation,
        (op.perform life.world).1 = (op.perform first.world).1 ∧
        (op.perform life.world).2.client.network.received =
          life.world.client.network.received ++
            (op.perform first.world).2.client.network.received) := by
  intro life
  have hkeeps : Keeps c life.past life.world.client :=
    Keeps.life (l := { world := { client := Rest.ofConfig network c } })
      (.closed network "" (by simp [IsOpened])) steps
  refine ⟨fun s hs => ?_, hkeeps.refuses, hkeeps.sends_like_first⟩
  cases s with
  | init => exact absurd (network_of_not_isOperation rfl _) hs
  | close => exact absurd (network_of_not_isOperation rfl _) hs
  | operation op =>
      refine ⟨rfl, ?_⟩
      by_contra hnot
      exact hs (congrArg Rest.network (hkeeps.refuses hnot op).1)

-- what decides is the last opening or closing, not what was done since
example : IsOpened (Life.of (Rest.ofConfig {} (Rest.localConfig Rest.plainId))
    [.init, .close, .init, .operation (.listWebApps "rg")]).past := rfl

end Lifecycle

end WebAppTargets
