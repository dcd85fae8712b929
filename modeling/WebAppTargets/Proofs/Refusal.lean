import WebAppTargets.Proofs.Answers
import WebAppTargets.Proofs.Confinement

namespace WebAppTargets

def Site.app (s : Site) : Site := { s with slot := none }

def Site.HasAppFault (s : Site) (f : NameFault) : Prop :=
  Naming.checkResourceGroup s.resourceGroup = .error f ∨ Naming.checkWebApp s.webApp = .error f

def Operation.ownSite? : Operation → Option Site
  | .getAppSettings s | .putAppSettings s _ | .getConnections s | .putConnections s _ => some s
  | .listWebApps _ | .listSlots _ _ | .getWebApp _ _ | .putSticky _ _ => none

namespace Action

variable {σ α β : Type}

/-- The actions leave the same world, and give the same unless both of them fail. -/
def Parallel (x y : Action σ α) : Prop := ∀ w, (x w).2 = (y w).2 ∧ (x w).1.toOption = (y w).1.toOption

namespace Parallel

theorem refl (x : Action σ α) : Parallel x x := fun _ => ⟨rfl, rfl⟩

theorem bind {x y : Action σ α} {f g : α → Action σ β} (hx : Parallel x y)
    (hf : ∀ a, Parallel (f a) (g a)) : Parallel (x >>= f) (y >>= g) := by
  intro w
  obtain ⟨hw, hr⟩ := hx w
  cases hxr : (x w).1 with
  | error d =>
      cases hyr : (y w).1 with
      | error e =>
          rw [bind_error (Prod.ext hxr rfl), bind_error (Prod.ext hyr rfl)]
          exact ⟨hw, rfl⟩
      | ok b =>
          rw [hxr, hyr] at hr
          cases hr
  | ok a =>
      cases hyr : (y w).1 with
      | error e =>
          rw [hxr, hyr] at hr
          cases hr
      | ok b =>
          rw [hxr, hyr] at hr
          obtain rfl : a = b := Option.some.inj hr
          rw [bind_ok (Prod.ext hxr rfl), bind_ok (Prod.ext hyr hw.symm)]
          exact hf a _

theorem inContext {x y : Action σ α} (h : Parallel x y) (f g : Error → Error) :
    Parallel (Action.inContext f x) (Action.inContext g y) := by
  have hoption (f : Error → Error) (r : Except Error α) : (r.mapError f).toOption = r.toOption := by
    cases r <;> rfl
  intro w
  obtain ⟨hw, hr⟩ := h w
  exact ⟨hw, ((hoption f _).trans hr).trans (hoption g _).symm⟩

end Parallel

end Action

namespace Rest

open WebAppTargets.Action

variable {r : Rest} {s : Site} {e : Error}

theorem siteUrl_of_validate_eq_error (h : s.validate = .error e) : r.siteUrl s = .error e := by
  rw [siteUrl, h]
  rfl

theorem perform_refuses {op : Operation} (hop : op.ownSite? = some s) (h : s.validate = .error e) :
    Ends r op.perform (.error e) r := by
  have haddress : r.siteUrl s = .error e := siteUrl_of_validate_eq_error h
  cases op with
  | getAppSettings t =>
      cases hop
      exact (locate_refuses haddress _).bind_error.bind_error
  | getConnections t =>
      cases hop
      exact (locate_refuses haddress _).bind_error.bind_error
  | putAppSettings t properties =>
      cases hop
      exact (locate_refuses haddress _).bind_error
  | putConnections t connections =>
      cases hop
      exact (locate_refuses haddress _).bind_error
  | listWebApps | listSlots | getWebApp | putSticky => cases hop

theorem webAppUrl_of_not_validate (h : s.app.validate ≠ .ok ()) :
    ∃ f, s.HasAppFault f ∧ r.webAppUrl s.resourceGroup s.webApp = .error (.ofName f) := by
  rw [webAppUrl, groupUrl]
  cases happ : Naming.checkWebApp s.webApp with
  | error f => exact ⟨f, .inr happ, rfl⟩
  | ok _ =>
      cases hgroup : Naming.checkResourceGroup s.resourceGroup with
      | error f => exact ⟨f, .inl hgroup, rfl⟩
      | ok _ =>
          have hvalid : s.app.validate = .ok () :=
            Site.validate_eq_ok_iff.2 ⟨hgroup, happ, by simp [Site.app]⟩
          exact absurd hvalid h

theorem putSticky_refuses (h : s.app.validate ≠ .ok ()) (names : NameSet) :
    ∃ f, s.HasAppFault f ∧ Ends r (Client.putSticky s names)
      (.error (.operation "arm" "get-slot-settings" s.text (.ofName f))) r := by
  obtain ⟨f, hfault, haddress⟩ := webAppUrl_of_not_validate (r := r) h
  have hread : Ends r (slotConfiguration s) (.error (.ofName f)) r :=
    (locate_refuses haddress _).bind_error
  exact ⟨f, hfault, (hread.inContext _).bind_error⟩

/-- Sticky names written for a slot are written for its web app. Errors tell of the slot. -/
theorem putSticky_parallel (s : Site) (names : NameSet) :
    Parallel (Client.putSticky s names : Action Rest Unit) (Client.putSticky s.app names) := by
  refine .bind (.inContext (.refl (slotConfiguration s)) _ _) fun _ => .bind (.refl _) fun _ => ?_
  exact .bind (.inContext (.refl _) _ _) fun _ => .refl _

/-- On a site that breaks the rules the operations at its own address give the error of the rules, and
send nothing. Writing sticky names does so when the names of the web app break them; a slot that breaks
them makes no difference to it. -/
theorem invalid_site_refused (r : Rest) (h : s.validate = .error e) :
    (∃ reason, e = .invalidName reason) ∧
    (∀ op : Operation, op.ownSite? = some s → Ends r op.perform (.error e) r) ∧
    ∀ names : NameSet,
      (s.app.validate ≠ .ok () → ∃ f d, s.HasAppFault f ∧ .ofName f ∈ d :: d.causes ∧
        Ends r (Client.putSticky s names) (.error d) r) ∧
      Parallel (Client.putSticky s names : Action Rest Unit) (Client.putSticky s.app names) := by
  obtain ⟨f, -, rfl⟩ := mapError_eq_error_iff.1 h
  refine ⟨⟨f.message, rfl⟩, fun op hop => perform_refuses hop h, fun names => ⟨fun happ => ?_, ?_⟩⟩
  · obtain ⟨f, hfault, hends⟩ := putSticky_refuses (r := r) happ names
    exact ⟨f, _, hfault, .tail _ (.head _), hends⟩
  · exact putSticky_parallel s names

def hyphenatedSlot : Site := ⟨"rg", "my-app", some "blue-"⟩

theorem invalid_site_refused_hyphen :
    hyphenatedSlot.validate =
      .error (.invalidName "slot name 'blue-' cannot start or end with a hyphen") ∧
    Ends (loopback []) (Operation.getConnections hyphenatedSlot).perform
      (.error (.invalidName "slot name 'blue-' cannot start or end with a hyphen")) (loopback []) :=
  ⟨rfl, (invalid_site_refused (loopback []) (s := hyphenatedSlot) rfl).2.1 _ rfl⟩

def unnamedClient : Rest := loopback [⟨200, "\x7b\x7d"⟩, ⟨200, "\x7b\x7d"⟩]

theorem unnamed_read :
    (⟨200, "\x7b\x7d"⟩ : Reply).read SlotConfiguration.decode = .ok ⟨.empty⟩ :=
  Json.Renders.holds (v := .ofFields []) (by decide) |>.read_eq rfl

def stickyUrl : String :=
  unnamedClient.versioned (unnamedClient.webAppAddress "rg" "my-app" ++ "/config/slotConfigNames")

set_option maxRecDepth 100000 in
theorem stickyUrl_reaches : unnamedClient.Reaches stickyUrl := by
  apply loopback_reaches
  simp only [stickyUrl, webAppAddress, groupAddress, versioned, toString, String.toList_append]
  decide

theorem stickyUrl_request (sent : List Request) (hsent : sent.length < 2) (method : Method)
    (body : Option Json.Value) :
    Ends (unnamedClient.after sent) (request SlotConfiguration.decode method stickyUrl body)
      (.ok ⟨.empty⟩) (unnamedClient.after (sent ++ [⟨method, stickyUrl, "token", body⟩])) := by
  have hends := request_ends (r := unnamedClient.after sent) rfl method body SlotConfiguration.decode
    stickyUrl_reaches
  have hreply : (unnamedClient.after sent).reply 0 = ⟨200, "\x7b\x7d"⟩ := by
    rw [reply_after]
    match sent.length, hsent with
    | 0, _ | 1, _ => rfl
  rw [hreply, unnamed_read, after_after] at hends
  exact hends

def stickyRead : Request := ⟨.get, stickyUrl, "token", none⟩

def stickyWrite : Request :=
  ⟨.put, stickyUrl, "token", some (SlotConfiguration.withNames ⟨.empty⟩ (.ofList ["a"])).json⟩

theorem refused_slot_writes_sticky :
    hyphenatedSlot.validate ≠ .ok () ∧
    Ends unnamedClient (Client.putSticky hyphenatedSlot (.ofList ["a"])) (.ok ())
      (unnamedClient.after [stickyRead, stickyWrite]) := by
  have hlocate (sent : List Request) :
      Ends (unnamedClient.after sent) (locate (·.webAppUrl "rg" "my-app") "/config/slotConfigNames")
        (.ok stickyUrl) (unnamedClient.after sent) :=
    locate_ends (webAppUrl_eq _ rfl rfl) _
  have hread : Ends (unnamedClient.after []) (slotConfiguration hyphenatedSlot) (.ok ⟨.empty⟩)
      (unnamedClient.after [stickyRead]) :=
    (hlocate []).bind (stickyUrl_request [] (by decide) .get none)
  have hwrite := stickyUrl_request [stickyRead] (by decide) stickyWrite.method stickyWrite.body
  rw [after_nil] at hread
  refine ⟨nofun, (hread.inContext _).bind ((hlocate [stickyRead]).bind ?_)⟩
  exact (hwrite.inContext _).bind (Ends.value _ ())

end Rest

end WebAppTargets
