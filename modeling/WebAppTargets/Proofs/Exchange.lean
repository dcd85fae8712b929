import Mathlib.Tactic.ByContra
import WebAppTargets.Client.Rest
import WebAppTargets.Proofs.Ending

namespace WebAppTargets

variable {α β : Type}

namespace Reply

def read (d : Json.Decoder α) (reply : Reply) : Except Error α := do
  let body ← reply.outcome
  (Json.decodeLetters d body.letters).mapError fun _ => .other "error decoding response body"

def fault (reply : Reply) : Error :=
  if reply.isSuccess then .other "error decoding response body"
  else .ofStatus reply.status reply.body.text

def IsGood (d : Json.Decoder α) (reply : Reply) : Prop :=
  reply.isSuccess ∧ ∃ a, Json.decodeLetters d reply.body.letters = .ok a

variable {d : Json.Decoder α} {reply : Reply}

theorem read_of_success (h : reply.isSuccess) :
    reply.read d = (Json.decodeLetters d reply.body.letters).mapError fun _ =>
      .other "error decoding response body" := by
  rw [read, outcome, if_pos h]
  rfl

theorem read_of_failure (h : reply.isSuccess = false) : reply.read d = .error reply.fault := by
  rw [read, outcome, fault, if_neg (by simp [h]), if_neg (by simp [h])]
  rfl

theorem read_eq_ok_iff {a : α} :
    reply.read d = .ok a ↔ reply.isSuccess ∧ Json.decodeLetters d reply.body.letters = .ok a := by
  cases hs : reply.isSuccess with
  | false => simp [read_of_failure hs]
  | true =>
      rw [read_of_success hs]
      cases Json.decodeLetters d reply.body.letters <;> simp [Except.mapError]

theorem isGood_iff : reply.IsGood d ↔ ∃ a, reply.read d = .ok a := by
  simp only [IsGood, read_eq_ok_iff, exists_and_left]

theorem read_of_not_isGood (h : ¬reply.IsGood d) : reply.read d = .error reply.fault := by
  cases hs : reply.isSuccess with
  | false => exact read_of_failure hs
  | true =>
      rw [read_of_success hs, fault, if_pos hs]
      cases hd : Json.decodeLetters d reply.body.letters with
      | error e => rfl
      | ok a => exact absurd ⟨hs, a, hd⟩ h

end Reply

namespace Site

variable {s : Site}

theorem validate_eq_ok_iff :
    s.validate = .ok () ↔ Naming.checkResourceGroup s.resourceGroup = .ok () ∧
      Naming.checkWebApp s.webApp = .ok () ∧ ∀ slot ∈ s.slot, Naming.checkSlot slot = .ok () := by
  unfold validate check
  cases Naming.checkResourceGroup s.resourceGroup <;> cases Naming.checkWebApp s.webApp <;>
    cases s.slot <;> simp [bind, Except.bind, Except.mapError]
  · rename_i slot
    cases Naming.checkSlot slot <;> simp

end Site

theorem Request.destination_eq_error {q : Request} {e : Error} (h : q.destination = .error e) :
    ∃ reason, e = .other reason := by
  unfold destination at h
  split at h
  · cases h
    exact ⟨_, rfl⟩
  · split at h
    · cases h
      exact ⟨_, rfl⟩
    · split at h
      · cases h
        exact ⟨_, rfl⟩
      · split at h
        · cases h
        · cases h
          exact ⟨_, rfl⟩

namespace Rest

open WebAppTargets.Action

variable (r : Rest)

section Address

def groupAddress (resourceGroup : String) : String :=
  s!"{r.base}/subscriptions/{r.account.subscription}/resourceGroups/{resourceGroup}/providers/Microsoft.Web"

def webAppAddress (resourceGroup webApp : String) : String :=
  s!"{r.groupAddress resourceGroup}/sites/{webApp}"

def siteAddress (s : Site) : String :=
  match s.slot with
  | some slot => s!"{r.webAppAddress s.resourceGroup s.webApp}/slots/{slot}"
  | none => r.webAppAddress s.resourceGroup s.webApp

theorem groupUrl_eq {resourceGroup : String}
    (h : Naming.checkResourceGroup resourceGroup = .ok ()) :
    r.groupUrl resourceGroup = .ok (r.groupAddress resourceGroup) := by
  rw [groupUrl, h]
  rfl

theorem webAppUrl_eq {resourceGroup webApp : String}
    (hgroup : Naming.checkResourceGroup resourceGroup = .ok ())
    (happ : Naming.checkWebApp webApp = .ok ()) :
    r.webAppUrl resourceGroup webApp = .ok (r.webAppAddress resourceGroup webApp) := by
  rw [webAppUrl, happ, groupUrl_eq r hgroup]
  rfl

theorem siteUrl_eq {s : Site} (h : s.validate = .ok ()) : r.siteUrl s = .ok (r.siteAddress s) := by
  obtain ⟨hgroup, happ, -⟩ := Site.validate_eq_ok_iff.1 h
  rw [siteUrl, h, webAppUrl_eq r hgroup happ, siteAddress]
  cases s.slot <;> rfl

end Address

def Reaches (url : String) : Prop :=
  r.network.isOnline ∧ (Request.destination ⟨.get, url, r.token, none⟩).isOk

/-- Whether a request can be written for an address of these characters. Nothing here is made a text,
so the question can be decided fast. -/
def isWritable (url : List Char) : Bool :=
  (Url.parse url).any fun u =>
    u.host?.isSome && u.isWeb && !u.anonymous.host?.any (·.text.any Url.isUnsendable) &&
      (u.anonymous.scheme ++ ':' :: u.anonymous.beforeTarget ++ u.anonymous.target ++
        (u.anonymous.fragment.map ('#' :: ·)).getD []).length ≤ Url.maxLength

theorem reaches_of_isWritable {url : String} (honline : r.network.isOnline)
    (htoken : (⟨.get, url, r.token, none⟩ : Request).hasPlainToken) (h : isWritable url.toList) :
    r.Reaches url := by
  refine ⟨honline, ?_⟩
  unfold isWritable at h
  unfold Request.destination
  cases hu : Url.parse url.toList with
  | none =>
      rw [hu] at h
      cases h
  | some u =>
      rw [hu, Option.any_some, Bool.and_eq_true, Bool.and_eq_true, Bool.and_eq_true,
        ← String.length_ofList] at h
      obtain ⟨⟨⟨hhost, hweb⟩, hcharacters⟩, hlength⟩ := h
      have hsendable : u.anonymous.isSendable := Bool.and_eq_true_iff.2 ⟨hcharacters, hlength⟩
      have hnone : u.host?.isNone = false := by rw [← Option.not_isSome, hhost]; rfl
      simp [hnone, htoken, hweb, hsendable]
      rfl

/-- The reply to the request that comes after `n` others. -/
def reply (n : Nat) : Reply := r.network.replies[n]?.getD .exhausted

def after (sent : List Request) : Rest :=
  { r with network := { r.network with
      replies := r.network.replies.drop sent.length
      received := r.network.received ++ sent } }

theorem after_nil : r.after [] = r := by simp [after]

@[simp] theorem after_after (sent more : List Request) :
    (r.after sent).after more = r.after (sent ++ more) := by
  simp [after]

@[simp] theorem reply_after (sent : List Request) (n : Nat) :
    (r.after sent).reply n = r.reply (sent.length + n) := by
  simp [reply, after, List.getElem?_drop]

variable {r}

theorem locate_ends {address : Rest → Except Error String} {text : String}
    (h : address r = .ok text) (part : String) :
    Ends r (locate address part) (.ok (r.versioned (text ++ part))) r := by
  have haddress : Ends r (Action.ofExcept (address r)) (.ok text) r := h ▸ Ends.ofExcept r (address r)
  exact (Ends.client r).bind (haddress.bind (Ends.value r _))

section Exchange

variable (hopen : r.isOpen) (method : Method) {url : String} (body : Option Json.Value)

include hopen

theorem exchange_ends (h : r.Reaches url) :
    Ends r (exchange method url body) (r.reply 0).outcome
      (r.after [⟨method, url, r.token, body⟩]) := by
  obtain ⟨honline, hdestination⟩ := h
  have hsend : r.network.send ⟨method, url, r.token, body⟩ =
      ((r.reply 0).outcome, (r.after [⟨method, url, r.token, body⟩]).network) := by
    unfold Network.send
    -- neither the method nor the body counts for the destination
    cases hd : Request.destination ⟨method, url, r.token, body⟩ with
    | error e => exact absurd (hd ▸ hdestination : (Except.error e).isOk) Bool.false_ne_true
    | ok u => simp [honline, reply, after, List.head?_eq_getElem?]
  refine (Ends.emit r _).bind ((Ends.client r).bind ?_)
  rw [if_pos hopen, hsend]
  exact (Ends.modify r _).bind (Ends.ofExcept _ _)

theorem exchange_ends_of_not_reaches (h : ¬r.Reaches url) :
    ∃ reason, Ends r (exchange method url body) (.error (.other reason)) r := by
  have hsend : ∃ reason,
      r.network.send ⟨method, url, r.token, body⟩ = (.error (.other reason), r.network) := by
    unfold Network.send
    cases hd : Request.destination ⟨method, url, r.token, body⟩ with
    | error e =>
        obtain ⟨reason, rfl⟩ := Request.destination_eq_error hd
        exact ⟨reason, rfl⟩
    | ok u =>
        have honline : r.network.isOnline = false := by
          by_contra hon
          have hok : (Request.destination ⟨method, url, r.token, body⟩).isOk := hd ▸ rfl
          exact h ⟨by simpa using hon, hok⟩
        exact ⟨s!"error sending request for url ({u.text})", by simp [honline]⟩
  obtain ⟨reason, hsend⟩ := hsend
  refine ⟨reason, (Ends.emit r _).bind ((Ends.client r).bind ?_)⟩
  rw [if_pos hopen, hsend]
  exact (Ends.modify r _).bind (Ends.ofExcept _ _)

theorem request_ends (d : Json.Decoder α) (h : r.Reaches url) :
    Ends r (request d method url body) ((r.reply 0).read d)
      (r.after [⟨method, url, r.token, body⟩]) := by
  have hx := exchange_ends hopen method body h
  rw [Reply.read]
  cases ho : (r.reply 0).outcome with
  | error e => exact Ends.bind_error (ho ▸ hx)
  | ok text => exact (ho ▸ hx : Ends _ _ (.ok text) _).bind (Ends.ofExcept _ _)

theorem request_ends_of_not_reaches (d : Json.Decoder α) (h : ¬r.Reaches url) :
    ∃ reason, Ends r (request d method url body) (.error (.other reason)) r := by
  obtain ⟨reason, he⟩ := exchange_ends_of_not_reaches hopen method body h
  exact ⟨reason, he.bind_error⟩

end Exchange

def loopback (replies : List Reply) : Rest where
  account := { subscription := "dad814cf-1c1e-4953-b950-c373a821c34f" }
  token := "token"
  version := usualVersion
  baseOverride := some "http://[::1]"
  base := "http://[::1]"
  isOpen := true
  network := { replies }

theorem loopback_reaches {replies : List Reply} {url : String} (h : isWritable url.toList) :
    (loopback replies).Reaches url := by
  have htoken : (⟨.get, "", "token", none⟩ : Request).hasPlainToken := by decide
  exact reaches_of_isWritable _ rfl htoken h

end Rest

end WebAppTargets
