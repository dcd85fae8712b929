import WebAppTargets.Proofs.Segments
import WebAppTargets.Proofs.Sending

namespace WebAppTargets

inductive Operation where
  | listWebApps (resourceGroup : String)
  | listSlots (resourceGroup webApp : String)
  | getWebApp (resourceGroup webApp : String)
  | getAppSettings (s : Site)
  | putAppSettings (s : Site) (properties : Table String)
  | putSticky (s : Site) (names : NameSet)
  | getConnections (s : Site)
  | putConnections (s : Site) (connections : Table ConnectionString)

namespace Operation

def perform {σ : Type} [Client σ] : Operation → Action σ Unit
  | .listWebApps rg => do let _ ← Client.listWebApps rg
  | .listSlots rg app => do let _ ← Client.listSlots rg app
  | .getWebApp rg app => do let _ ← Client.getWebApp rg app
  | .getAppSettings s => do let _ ← Client.getAppSettings s
  | .putAppSettings s properties => Client.putAppSettings s properties
  | .putSticky s names => Client.putSticky s names
  | .getConnections s => do let _ ← Client.getConnections s
  | .putConnections s connections => Client.putConnections s connections

def isListing : Operation → Bool
  | .listWebApps _ | .listSlots _ _ => true
  | _ => false

def stickyNames (s : Site) : Location where
  resourceGroup := s.resourceGroup
  webApp := s.webApp
  tail := ["config", "slotConfigNames"]

def locations : Operation → List Location
  | .listWebApps rg => [{ resourceGroup := rg }]
  | .listSlots rg app => [{ resourceGroup := rg, webApp := app, tail := ["slots"] }]
  | .getWebApp rg app => [{ resourceGroup := rg, webApp := app }]
  | .getAppSettings s => [.ofSite s ["config", "appsettings", "list"], stickyNames s]
  | .putAppSettings s _ => [.ofSite s ["config", "appsettings"]]
  | .putSticky s _ => [stickyNames s]
  | .getConnections s => [.ofSite s ["config", "connectionstrings", "list"]]
  | .putConnections s _ => [.ofSite s ["config", "connectionstrings"]]

end Operation

namespace Rest

open WebAppTargets.Action

variable {α β : Type} {r : Rest} {P : Request → Prop}

theorem locate_refuses {address : Rest → Except Error String} {e : Error}
    (h : address r = .error e) (part : String) : Ends r (locate address part) (.error e) r := by
  have haddress : Ends r (Action.ofExcept (address r)) (.error e) r := h ▸ Ends.ofExcept r (address r)
  exact (Ends.client r).bind haddress.bind_error

def Sends (r : Rest) (P : Request → Prop) (x : Action Rest α) : Prop :=
  ∃ q sent, Ends r x q (r.after sent) ∧ ∀ p ∈ sent, P p

namespace Sends

variable {x : Action Rest α}

theorem bind {f : α → Action Rest β} (hx : r.Sends P x)
    (hf : ∀ a sent, (r.after sent).Sends P (f a)) : r.Sends P (x >>= f) := by
  obtain ⟨q, sent, hends, hP⟩ := hx
  cases q with
  | error e => exact ⟨_, sent, hends.bind_error, hP⟩
  | ok a =>
      obtain ⟨q, more, hends', hP'⟩ := hf a sent
      rw [after_after] at hends'
      exact ⟨q, _, hends.bind hends', List.forall_mem_append.2 ⟨hP, hP'⟩⟩

theorem of_ends {q : Except Error α} (h : Ends r x q r) : r.Sends P x :=
  ⟨q, [], by rwa [after_nil], by simp⟩

theorem value (a : α) : r.Sends P (pure a) := of_ends (Ends.value r a)

theorem during (operation site : String) (hx : r.Sends P x) :
    r.Sends P (Rest.during operation site x) := by
  obtain ⟨q, sent, hends, hP⟩ := hx
  exact ⟨_, sent, hends.inContext _, hP⟩

theorem attempt (hx : r.Sends P x) : r.Sends P (Action.attempt x) := by
  obtain ⟨q, sent, hends, hP⟩ := hx
  exact ⟨_, sent, hends.attempt, hP⟩

theorem request {url : String} (h : ∀ p : Request, p.url = url → P p) (d : Json.Decoder α)
    (method : Method) (body : Option Json.Value) : r.Sends P (Rest.request d method url body) := by
  rcases request_sends r d method url body with hends | ⟨e, hends⟩
  · exact ⟨_, _, hends, by simpa using h _ rfl⟩
  · exact of_ends hends

theorem locate {address : Rest → Except Error String} {part : String} {f : String → Action Rest α}
    (hf : ∀ text, address r = .ok text → r.Sends P (f (r.versioned (text ++ part)))) :
    r.Sends P (locate address part >>= f) := by
  cases h : address r with
  | error e => exact of_ends (locate_refuses h part).bind_error
  | ok text =>
      obtain ⟨q, sent, hends, hP⟩ := hf text h
      exact ⟨q, sent, (locate_ends h part).bind hends, hP⟩

end Sends

section Requests

variable {l : Location} {url : String} {s : Site} {sent : List Request}

theorem Locates.of_after (h : (r.after sent).Locates l url) : r.Locates l url := ⟨h.plain, h.path⟩

theorem Locates.sends (h : r.Locates l url) (hP : ∀ p : Request, r.Locates l p.url → P p)
    (d : Json.Decoder α) (method : Method) (body : Option Json.Value) :
    r.Sends P (request d method url body) :=
  .request (fun p hp => hP p (hp ▸ h)) d method body

theorem slotConfiguration_sends
    (hP : ∀ p : Request, r.Locates (Operation.stickyNames s) p.url → P p) :
    r.Sends P (slotConfiguration s) :=
  .locate fun _ h => (locates_webApp _ _ (by decide) (by decide) h).sends hP _ _ _

end Requests

/-- Operations that list nothing send requests about their locations only. -/
theorem perform_sends (op : Operation) (hop : op.isListing = false)
    (hP : ∀ l ∈ op.locations, ∀ p : Request, r.Locates l p.url → P p) :
    r.Sends P op.perform := by
  cases op with
  | listWebApps | listSlots => cases hop
  | getWebApp rg app =>
      refine .bind (.locate fun text h => ?_) fun _ _ => .value ()
      have hlocates := locates_webApp "" [] (by simp) (by decide) h
      refine .bind (.attempt (hlocates.sends (hP _ (.head _)) _ _ _)) fun found sent => ?_
      split
      · exact .value _
      · exact .value _
      · exact .of_ends (Ends.fail _ _)
  | getAppSettings s =>
      refine .bind (.locate fun text h => ?_) fun _ _ => .value ()
      have hlocates :=
        locates_site "/config/appsettings/list" ["config", "appsettings", "list"] (by decide) (by decide) h
      refine .bind (.during _ _ (hlocates.sends (hP _ (.head _)) _ _ _)) fun _ sent => ?_
      refine .bind (.during _ _ (slotConfiguration_sends fun p hp => ?_)) fun _ _ => .value _
      exact hP _ (.tail _ (.head _)) p hp.of_after
  | putAppSettings s properties =>
      refine .locate fun text h => ?_
      have hlocates :=
        locates_site "/config/appsettings" ["config", "appsettings"] (by decide) (by decide) h
      exact .bind (.during _ _ (hlocates.sends (hP _ (.head _)) _ _ _)) fun _ _ => .value ()
  | putSticky s names =>
      refine .bind (.during _ _ (slotConfiguration_sends (hP _ (.head _)))) fun _ sent => ?_
      refine .locate fun text h => ?_
      have hlocates :=
        locates_webApp "/config/slotConfigNames" ["config", "slotConfigNames"] (by decide) (by decide) h
      refine .bind (.during _ _ (hlocates.sends (fun p hp => ?_) _ _ _)) fun _ _ => .value ()
      exact hP _ (.head _) p hp.of_after
  | getConnections s =>
      refine .bind (.locate fun text h => ?_) fun _ _ => .value ()
      have hlocates :=
        locates_site "/config/connectionstrings/list" ["config", "connectionstrings", "list"]
          (by decide) (by decide) h
      exact .during _ _ (hlocates.sends (hP _ (.head _)) _ _ _)
  | putConnections s connections =>
      refine .locate fun text h => ?_
      have hlocates :=
        locates_site "/config/connectionstrings" ["config", "connectionstrings"] (by decide) (by decide) h
      exact .bind (.during _ _ (hlocates.sends (hP _ (.head _)) _ _ _)) fun _ _ => .value ()

/-- The requests of an operation: about its locations, or for a further page of a listing. -/
def Confines (r : Rest) (op : Operation) (sent : List Request) : Prop :=
  ∀ i p, sent[i]? = some p →
    (∃ l ∈ op.locations, r.Locates l p.url) ∨
      op.isListing ∧ ∃ n, i = n + 1 ∧ r.LinksTo n p.url

theorem confines_of_follows {op : Operation} {l : Location} {url : String} {sent : List Request}
    (hop : op.isListing) (hl : l ∈ op.locations) (hurl : r.Locates l url)
    (h : r.Follows url sent) : r.Confines op sent := by
  intro i p hp
  cases i with
  | zero =>
      have hfirst := h.first p (List.head?_eq_getElem?.trans hp)
      exact .inl ⟨l, hl, hfirst ▸ hurl⟩
  | succ n => exact .inr ⟨hop, n, rfl, h.next n p hp⟩

theorem listing_confines {op : Operation} {l : Location} {part : String} (hop : op.isListing)
    (hl : l ∈ op.locations) (address : Rest → Except Error String)
    (haddress : ∀ text, address r = .ok text → r.Locates l (r.versioned (text ++ part)))
    (operation site : String) (f : List ListedSite → α) :
    ∃ q sent, Ends r (do
        let url ← locate address part
        let sites ← during operation site (listing url)
        return f sites) q (r.after sent) ∧ r.Confines op sent := by
  cases h : address r with
  | error e =>
      refine ⟨.error e, [], ?_, by simp [Confines]⟩
      rw [after_nil]
      exact (locate_refuses h part).bind_error
  | ok text =>
      obtain ⟨_, sent, hends, hfollows⟩ := listing_sends r (r.versioned (text ++ part))
      obtain ⟨q, hq⟩ := (hends.inContext _).bind_quiet fun sites => ⟨_, Ends.value _ (f sites)⟩
      exact ⟨q, sent, (locate_ends h part).bind hq,
        confines_of_follows hop hl (haddress text h) hfollows⟩

theorem perform_confines (r : Rest) (op : Operation) :
    ∃ q sent, Ends r op.perform q (r.after sent) ∧ r.Confines op sent := by
  cases hop : op.isListing with
  | false =>
      obtain ⟨q, sent, hends, hsent⟩ :=
        perform_sends (P := fun p => ∃ l ∈ op.locations, r.Locates l p.url) op hop
          fun l hl p hp => ⟨l, hl, hp⟩
      exact ⟨q, sent, hends, fun i p hp => .inl (hsent p (List.mem_of_getElem? hp))⟩
  | true =>
      cases op with
      | listWebApps rg =>
          obtain ⟨_, sent, hends, hconfines⟩ := listing_confines hop (.head _) (·.groupUrl rg)
            (fun _ h => locates_group h) "list-web-apps" rg (·.map (·.webApp rg))
          obtain ⟨q, hq⟩ := hends.bind_quiet fun _ => ⟨_, Ends.value _ ()⟩
          exact ⟨q, sent, hq, hconfines⟩
      | listSlots rg app =>
          obtain ⟨_, sent, hends, hconfines⟩ := listing_confines hop (.head _) (·.webAppUrl rg app)
            (fun _ h => locates_webApp "/slots" ["slots"] (by decide) (by decide) h) "list-slots" app
            (·.map (·.slot rg app))
          obtain ⟨q, hq⟩ := hends.bind_quiet fun _ => ⟨_, Ends.value _ ()⟩
          exact ⟨q, sent, hq, hconfines⟩
      | getWebApp | getAppSettings | putAppSettings | putSticky | getConnections | putConnections =>
          cases hop

/-- Whatever an operation is called with, its requests go to a path under the subscription that names
just the segments of one of its locations, and the names in it are plain; only the further pages of a
listing are where the service says. And the address of a site is its own. -/
theorem requests_confined (r : Rest) :
    (∀ (op : Operation) (w : World Rest), w.client = r → ∃ sent,
      (op.perform w).2.client.network.received = r.network.received ++ sent ∧ r.Confines op sent) ∧
    ∀ s t text, r.siteUrl s = .ok text → r.siteUrl t = .ok text → s = t := by
  refine ⟨fun op w hw => ?_, fun s t text hs ht => siteUrl_injective hs ht⟩
  obtain ⟨q, sent, hends, hconfines⟩ := perform_confines r op
  obtain ⟨-, hclient⟩ := hends w hw
  exact ⟨sent, by rw [hclient]; rfl, hconfines⟩

end Rest

end WebAppTargets
