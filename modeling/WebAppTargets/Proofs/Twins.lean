import Mathlib.Data.List.TakeWhile
import WebAppTargets.Proofs.Confinement

namespace WebAppTargets

variable {α β : Type}

namespace Url

def isBreak (c : Char) : Bool := c == '\t' || c == '\n' || c == '\r'

def unbroken (s : List Char) : List Char := s.filter fun c => !isBreak c

def isEdge (c : Char) : Bool := c.toNat ≤ 0x20

def withoutEdges (s : List Char) : List Char := ((s.dropWhile isEdge).reverse.dropWhile isEdge).reverse

theorem cleaned_eq (s : List Char) : cleaned s = unbroken (withoutEdges s) := rfl

theorem dropWhile_append_of_mem {p : α → Bool} {s : List α} (hs : ∃ c ∈ s, p c = false) (t : List α) :
    (s ++ t).dropWhile p = s.dropWhile p ++ t := by
  obtain ⟨c, hc, hp⟩ := hs
  rw [List.dropWhile_append, if_neg]
  intro h
  have hall := List.dropWhile_eq_nil_iff.1 (List.isEmpty_iff.1 h) c hc
  rw [hp] at hall
  cases hall

/-- Between characters that stay, what a text has in the middle is cleaned by itself. -/
theorem withoutEdges_append {a b : List Char} (ha : ∃ c ∈ a, isEdge c = false)
    (hb : ∃ c ∈ b, isEdge c = false) (m : List Char) :
    withoutEdges (a ++ m ++ b) =
      a.dropWhile isEdge ++ m ++ (b.reverse.dropWhile isEdge).reverse := by
  have hb : ∃ c ∈ b.reverse, isEdge c = false := by simpa using hb
  rw [withoutEdges, List.append_assoc, dropWhile_append_of_mem ha, ← List.append_assoc,
    List.reverse_append, dropWhile_append_of_mem hb, List.reverse_append, List.reverse_reverse]

theorem cleaned_append_congr {a b m n : List Char} (ha : ∃ c ∈ a, isEdge c = false)
    (hb : ∃ c ∈ b, isEdge c = false) (h : unbroken m = unbroken n) :
    cleaned (a ++ m ++ b) = cleaned (a ++ n ++ b) := by
  rw [cleaned_eq, cleaned_eq, withoutEdges_append ha hb, withoutEdges_append ha hb]
  rw [unbroken, unbroken] at h
  simp only [unbroken, List.filter_append, h]

def Same (s t : String) : Prop := cleaned s.toList = cleaned t.toList

theorem Same.parse_eq {s t : String} (h : Same s t) : parse s.toList = parse t.toList := by
  rw [parse, parse, h]

end Url

def Request.seen (q : Request) : Method × String × String × Option Json.Value :=
  (q.method, q.target, q.authorization, q.body)

section Network

variable {n m : Network} {url other : String}

theorem Request.destination_congr (h : Url.Same url other) (method : Method) (token : String)
    (body : Option Json.Value) :
    destination ⟨method, url, token, body⟩ = destination ⟨method, other, token, body⟩ := by
  rw [destination, h.parse_eq]
  rfl

theorem Request.seen_congr (h : Url.Same url other) (method : Method) (token : String)
    (body : Option Json.Value) :
    seen ⟨method, url, token, body⟩ = seen ⟨method, other, token, body⟩ := by
  rw [seen, target, h.parse_eq]
  rfl

/-- Networks on which the service has seen the same, and says the same from now on. -/
structure Network.Twins (n m : Network) : Prop where
  isOnline : n.isOnline = m.isOnline
  replies : n.replies = m.replies
  seen : n.received.map Request.seen = m.received.map Request.seen

theorem Network.Twins.send (h : Twins n m) (hurl : Url.Same url other) (method : Method)
    (token : String) (body : Option Json.Value) :
    ∃ outcome n' m', n.send ⟨method, url, token, body⟩ = (outcome, n') ∧
      m.send ⟨method, other, token, body⟩ = (outcome, m') ∧ Twins n' m' := by
  rw [Network.send, Network.send]
  rw [Request.destination_congr hurl, ← h.isOnline, ← h.replies]
  cases Request.destination ⟨method, other, token, body⟩ with
  | error e => exact ⟨_, n, m, rfl, rfl, h⟩
  | ok u =>
      dsimp only
      split
      · refine ⟨_, _, _, rfl, rfl, rfl, rfl, ?_⟩
        rw [List.map_append, List.map_append, h.seen, List.map_singleton, List.map_singleton,
          Request.seen_congr hurl]
      · exact ⟨_, n, m, rfl, rfl, h⟩

end Network

namespace Rest

/-- Clients that differ in tabs and line breaks of their subscriptions, and in the addresses of what
was sent as they were asked for. -/
structure Twins (r t : Rest) : Prop where
  subscription :
    Url.unbroken r.account.subscription.toList = Url.unbroken t.account.subscription.toList
  token : r.token = t.token
  version : r.version = t.version
  base : r.base = t.base
  isOpen : r.isOpen = t.isOpen
  network : r.network.Twins t.network

/-- On twins the actions give the same and leave twins. What they tell may differ. -/
def Mirror (x y : Action Rest α) : Prop :=
  ∀ w v : World Rest, Twins w.client v.client →
    (x w).1 = (y v).1 ∧ Twins (x w).2.client (y v).2.client

namespace Mirror

open WebAppTargets.Action

variable {x y : Action Rest α} {r t : Rest}

theorem bind {f g : α → Action Rest β} (hx : Mirror x y) (hf : ∀ a, Mirror (f a) (g a)) :
    Mirror (x >>= f) (y >>= g) := by
  intro w v h
  obtain ⟨hr, htwins⟩ := hx w v h
  cases hy : (y v).1 with
  | error e =>
      rw [hy] at hr
      rw [bind_error (Prod.ext hr rfl), bind_error (Prod.ext hy rfl)]
      exact ⟨rfl, htwins⟩
  | ok a =>
      rw [hy] at hr
      rw [bind_ok (Prod.ext hr rfl), bind_ok (Prod.ext hy rfl)]
      exact hf a _ _ htwins

theorem value (a : α) : Mirror (pure a) (pure a) := fun _ _ h => ⟨rfl, h⟩

theorem ofExcept (q : Except Error α) : Mirror (Action.ofExcept q) (Action.ofExcept q) :=
  fun _ _ h => ⟨rfl, h⟩

theorem fail (e : Error) : Mirror (Action.fail e : Action Rest α) (Action.fail e) :=
  fun _ _ h => ⟨rfl, h⟩

theorem emit (a b : Trace) : Mirror (Action.emit a) (Action.emit b) := fun _ _ h => ⟨rfl, h⟩

theorem modify {f g : Rest → Rest} (h : ∀ r t, Twins r t → Twins (f r) (g t)) :
    Mirror (Action.modify f) (Action.modify g) :=
  fun _ _ htwins => ⟨rfl, h _ _ htwins⟩

theorem bind_client {f g : Rest → Action Rest α} (h : ∀ r t, Twins r t → Mirror (f r) (g t)) :
    Mirror (Action.client >>= f) (Action.client >>= g) :=
  fun w v htwins => h w.client v.client htwins w v htwins

theorem inContext (hx : Mirror x y) (f : Error → Error) :
    Mirror (Action.inContext f x) (Action.inContext f y) := by
  intro w v h
  obtain ⟨hr, htwins⟩ := hx w v h
  exact ⟨congrArg (Except.mapError f) hr, htwins⟩

theorem attempt (hx : Mirror x y) : Mirror (Action.attempt x) (Action.attempt y) := by
  intro w v h
  obtain ⟨hr, htwins⟩ := hx w v h
  exact ⟨congrArg Except.ok hr, htwins⟩

end Mirror

section Sending

variable {url other : String}

theorem exchange_mirror (h : Url.Same url other) (method : Method) (body : Option Json.Value) :
    Mirror (exchange method url body) (exchange method other body) := by
  refine .bind (.emit _ _) fun _ => .bind_client fun r t htwins => ?_
  rw [← htwins.isOpen, ← htwins.token]
  split
  · obtain ⟨outcome, n, m, hn, hm, hnetwork⟩ := htwins.network.send h method r.token body
    rw [hn, hm]
    refine .bind (.modify fun _ _ htwins => ?_) fun _ => .ofExcept _
    exact { htwins with network := hnetwork }
  · exact .fail _

theorem request_mirror (h : Url.Same url other) (d : Json.Decoder α) (method : Method)
    (body : Option Json.Value) : Mirror (request d method url body) (request d method other body) :=
  .bind (exchange_mirror h method body) fun _ => .ofExcept _

theorem pages_mirror (n : Nat) (h : Url.Same url other) : Mirror (pages n url) (pages n other) := by
  -- on the number of further pages; these are where the service says, for both clients
  induction n generalizing url other with
  | zero => exact .bind (request_mirror h _ _ _) fun page => .value _
  | succ n ih =>
      refine .bind (request_mirror h _ _ _) fun page => ?_
      cases page.next with
      | none => exact .value _
      | some next => exact .bind (ih rfl) fun _ => .value _

theorem listing_mirror (h : Url.Same url other) : Mirror (listing url) (listing other) := by
  refine .bind_client fun r t htwins => ?_
  rw [htwins.network.replies]
  exact pages_mirror _ h

theorem during_mirror {x y : Action Rest α} (hx : Mirror x y) (operation site : String) :
    Mirror (during operation site x) (during operation site y) :=
  hx.inContext _

end Sending

section Address

variable {r t : Rest} {resourceGroup webApp : String} {s : Site}

theorem Twins.same (h : Twins r t) {u v : String} {path : List Char}
    (hu : u.toList = r.root.toList ++ path) (hv : v.toList = t.root.toList ++ path) :
    Url.Same (r.versioned u) (t.versioned v) := by
  -- what stands before and behind the subscription
  have hversioned {r : Rest} {u : String} (hu : u.toList = r.root.toList ++ path) :
      (r.versioned u).toList = (r.base.toList ++ "/subscriptions/".toList) ++
        r.account.subscription.toList ++ ('/' :: path ++ "?api-version=".toList ++ r.version.toList) := by
    simp [versioned, root, toString, hu]
  rw [Url.Same]
  rw [hversioned hu, hversioned hv, h.base, h.version]
  exact Url.cleaned_append_congr ⟨'/', by simp, by decide⟩ ⟨'/', by simp, by decide⟩ h.subscription

/-- Of any two clients the addresses are refused alike, or have the same path under their roots. -/
def Rooted (address : Rest → Except Error String) : Prop :=
  (∃ e, ∀ r, address r = .error e) ∨
    ∃ path : List Char, ∀ r : Rest, ∃ text, address r = .ok text ∧ text.toList = r.root.toList ++ path

theorem rooted_groupUrl (resourceGroup : String) : Rooted (·.groupUrl resourceGroup) := by
  cases h : Naming.checkResourceGroup resourceGroup with
  | error f =>
      refine .inl ⟨.ofName f, fun r => ?_⟩
      change r.groupUrl resourceGroup = _
      rw [groupUrl, h]
      rfl
  | ok _ =>
      let path := s!"resourceGroups/{resourceGroup}/providers/Microsoft.Web".toList
      refine .inr ⟨path, fun r => ⟨_, groupUrl_eq r h, ?_⟩⟩
      simp [path, groupAddress, root, toString]

theorem rooted_webAppUrl (resourceGroup webApp : String) : Rooted (·.webAppUrl resourceGroup webApp) := by
  cases happ : Naming.checkWebApp webApp with
  | error f =>
      refine .inl ⟨.ofName f, fun r => ?_⟩
      change r.webAppUrl resourceGroup webApp = _
      rw [webAppUrl, happ]
      rfl
  | ok _ =>
      cases hgroup : Naming.checkResourceGroup resourceGroup with
      | error f =>
          refine .inl ⟨.ofName f, fun r => ?_⟩
          change r.webAppUrl resourceGroup webApp = _
          rw [webAppUrl, happ, groupUrl, hgroup]
          rfl
      | ok _ =>
          refine .inr ⟨Location.path { resourceGroup, webApp }, fun r => ?_⟩
          refine ⟨_, webAppUrl_eq r hgroup happ, ?_⟩
          simpa using webAppAddress_eq r resourceGroup webApp []

theorem rooted_siteUrl (s : Site) : Rooted (·.siteUrl s) := by
  cases h : s.validate with
  | error e =>
      refine .inl ⟨e, fun r => ?_⟩
      change r.siteUrl s = _
      rw [siteUrl, h]
      rfl
  | ok _ =>
      refine .inr ⟨(Location.ofSite s []).path, fun r => ⟨_, siteUrl_eq r h, ?_⟩⟩
      simpa using siteAddress_eq r s []

theorem locate_mirror {address : Rest → Except Error String} (h : Rooted address) (part : String)
    {f : String → Action Rest α} (hf : ∀ u v, Url.Same u v → Mirror (f u) (f v)) :
    Mirror (locate address part >>= f) (locate address part >>= f) := by
  intro w v htwins
  rcases h with ⟨e, he⟩ | ⟨path, haddress⟩
  · obtain ⟨hw, hwclient⟩ := (locate_refuses (he w.client) part).bind_error (f := f) w rfl
    obtain ⟨hv, hvclient⟩ := (locate_refuses (he v.client) part).bind_error (f := f) v rfl
    rw [hw, hv, hwclient, hvclient]
    exact ⟨rfl, htwins⟩
  · obtain ⟨a, ha, hatext⟩ := haddress w.client
    obtain ⟨b, hb, hbtext⟩ := haddress v.client
    have hlocate {w : World Rest} {text : String} (h : address w.client = .ok text) :
        locate address part w = (.ok (w.client.versioned (text ++ part)), w) := by
      simp [locate, Action.bind_apply, Action.client, Action.ofExcept, h]
    rw [Action.bind_ok (hlocate ha), Action.bind_ok (hlocate hb)]
    have hfull {r : Rest} {text : String} (h : text.toList = r.root.toList ++ path) :
        (text ++ part).toList = r.root.toList ++ (path ++ part.toList) := by
      rw [String.toList_append, h, List.append_assoc]
    exact hf _ _ (htwins.same (hfull hatext) (hfull hbtext)) w v htwins

end Address

theorem slotConfiguration_mirror (s : Site) : Mirror (slotConfiguration s) (slotConfiguration s) :=
  locate_mirror (rooted_webAppUrl _ _) _ fun _ _ h => request_mirror h _ _ _

theorem perform_mirror (op : Operation) : Mirror (op.perform : Action Rest Unit) op.perform := by
  cases op with
  | listWebApps rg =>
      refine .bind (locate_mirror (rooted_groupUrl rg) _ fun _ _ h => ?_) fun _ => .value ()
      exact .bind (during_mirror (listing_mirror h) _ _) fun _ => .value _
  | listSlots rg app =>
      refine .bind (locate_mirror (rooted_webAppUrl rg app) _ fun _ _ h => ?_) fun _ => .value ()
      exact .bind (during_mirror (listing_mirror h) _ _) fun _ => .value _
  | getWebApp rg app =>
      refine .bind (locate_mirror (rooted_webAppUrl rg app) _ fun _ _ h => ?_) fun _ => .value ()
      refine .bind (request_mirror h _ _ _).attempt fun found => ?_
      split
      · exact .value _
      · exact .value _
      · exact .fail _
  | getAppSettings s =>
      refine .bind (locate_mirror (rooted_siteUrl s) _ fun _ _ h => ?_) fun _ => .value ()
      refine .bind (during_mirror (request_mirror h _ _ _) _ _) fun _ => ?_
      exact .bind (during_mirror (slotConfiguration_mirror s) _ _) fun _ => .value _
  | putAppSettings s properties =>
      refine locate_mirror (rooted_siteUrl s) _ fun _ _ h => ?_
      exact .bind (during_mirror (request_mirror h _ _ _) _ _) fun _ => .value _
  | putSticky s names =>
      refine .bind (during_mirror (slotConfiguration_mirror s) _ _) fun _ => ?_
      refine locate_mirror (rooted_webAppUrl _ _) _ fun _ _ h => ?_
      exact .bind (during_mirror (request_mirror h _ _ _) _ _) fun _ => .value _
  | getConnections s =>
      refine .bind (locate_mirror (rooted_siteUrl s) _ fun _ _ h => ?_) fun _ => .value ()
      exact during_mirror (request_mirror h _ _ _) _ _
  | putConnections s connections =>
      refine locate_mirror (rooted_siteUrl s) _ fun _ _ h => ?_
      exact .bind (during_mirror (request_mirror h _ _ _) _ _) fun _ => .value _

end Rest

end WebAppTargets
