import WebAppTargets.Proofs.Alike

namespace WebAppTargets

open WebAppTargets.Action

variable {α : Type}

structure Credentials where
  client : String
  tenant : String
  password : String
  directoryOverride : String

namespace Account

def credentials (a : Account) : Credentials := ⟨a.client, a.tenant, a.password, a.directoryOverride⟩

def withCredentials (a : Account) (k : Credentials) : Account :=
  { a with
    client := k.client, tenant := k.tenant, password := k.password
    directoryOverride := k.directoryOverride }

end Account

namespace Network

def since (n : Network) (earlier : List Request) : Network :=
  { n with received := earlier ++ n.received }

theorem send_since (n : Network) (earlier : List Request) (q : Request) :
    (n.since earlier).send q = ((n.send q).1, (n.send q).2.since earlier) := by
  unfold send
  cases q.destination with
  | error e => rfl
  | ok u =>
      cases h : n.isOnline with
      | false => simp [since, h]
      | true => simp [since, h]

end Network

structure Guise where
  credentials : Credentials
  earlier : List Request := []

namespace Rest

def under (g : Guise) (r : Rest) : Rest :=
  { r with account := r.account.withCredentials g.credentials, network := r.network.since g.earlier }

def Under (g : Guise) (r t : Rest) : Prop := t = r.under g

variable {g : Guise}

theorem exchange_alike (method : Method) (url : String) (body : Option Json.Value) :
    Action.Alike (Under g) (exchange method url body) (exchange method url body) := by
  refine .bind (.emit _) fun _ => .bind_client ?_
  rintro r _ rfl
  by_cases hopen : r.isOpen
  · rw [if_pos hopen, if_pos (show (r.under g).isOpen from hopen)]
    have hsend : (r.under g).network.send ⟨method, url, (r.under g).token, body⟩ = _ :=
      r.network.send_since g.earlier ⟨method, url, r.token, body⟩
    rw [hsend]
    refine .bind (.modify ?_) fun _ => .ofExcept _
    rintro t _ rfl
    rfl
  · rw [if_neg hopen, if_neg (show ¬(r.under g).isOpen from hopen)]
    exact .fail _

theorem request_alike (d : Json.Decoder α) (method : Method) (url : String)
    (body : Option Json.Value) :
    Action.Alike (Under g) (request d method url body) (request d method url body) :=
  .bind (exchange_alike method url body) fun _ => .ofExcept _

theorem pages_alike (n : Nat) (url : String) :
    Action.Alike (Under g) (pages n url) (pages n url) := by
  induction n generalizing url with
  | zero => exact .bind (request_alike _ _ _ _) fun _ => .value _
  | succ n ih =>
      refine .bind (request_alike _ _ _ _) fun page => ?_
      cases page.next with
      | none => exact .value _
      | some next => exact .bind (ih next) fun _ => .value _

theorem listing_alike (url : String) : Action.Alike (Under g) (listing url) (listing url) := by
  refine .bind_client ?_
  rintro r _ rfl
  exact pages_alike _ url

theorem locate_alike {address : Rest → Except Error String}
    (h : ∀ r : Rest, address (r.under g) = address r) (part : String) :
    Action.Alike (Under g) (locate address part) (locate address part) := by
  refine .bind_client ?_
  rintro r _ rfl
  rw [h]
  exact .bind (.ofExcept _) fun _ => .value _

theorem slotConfiguration_alike (s : Site) :
    Action.Alike (Under g) (slotConfiguration s) (slotConfiguration s) :=
  .bind (locate_alike (fun _ => rfl) _) fun _ => request_alike _ _ _ _

theorem init_alike : Action.Alike (Under g) Client.init Client.init := by
  refine .bind_client ?_
  rintro r _ rfl
  refine .bind (.ofExcept _) fun _ => ?_
  have hset (f : Rest → Rest) (hf : ∀ r, f (r.under g) = (f r).under g) :
      Action.Alike (Under g) (Action.modify f) (Action.modify f) := by
    refine .modify ?_
    rintro r _ rfl
    exact hf r
  by_cases htoken : Text.isBlankText r.token
  · rw [if_pos htoken, if_pos (show Text.isBlankText (r.under g).token from htoken)]
    exact .fail (α := Unit) .notAuthenticated
  · rw [if_neg htoken, if_neg (show ¬Text.isBlankText (r.under g).token from htoken)]
    rw [show (r.under g).baseOverride = r.baseOverride from rfl]
    cases r.baseOverride with
    | some base => exact hset _ fun _ => rfl
    | none => exact .bind (.emit _) fun _ => hset _ fun _ => rfl

theorem close_alike : Action.Alike (Under g) Client.close Client.close := by
  refine .modify ?_
  rintro r _ rfl
  rfl

theorem guise_alike : Client.Alike (Under g) where
  init := init_alike
  listWebApps rg := by
    refine .bind (locate_alike (fun _ => rfl) _) fun url => ?_
    exact .bind (.inContext (listing_alike url) _) fun _ => .value _
  listSlots rg app := by
    refine .bind (locate_alike (fun _ => rfl) _) fun url => ?_
    exact .bind (.inContext (listing_alike url) _) fun _ => .value _
  getWebApp rg app := by
    refine .bind (locate_alike (fun _ => rfl) _) fun url => ?_
    refine .bind (.attempt (request_alike _ _ url _)) fun found => ?_
    split
    · exact .value _
    · exact .value _
    · exact .fail _
  getAppSettings s := by
    refine .bind (locate_alike (fun _ => rfl) _) fun url => ?_
    refine .bind (.inContext (request_alike _ _ url _) _) fun _ => ?_
    exact .bind (.inContext (slotConfiguration_alike s) _) fun _ => .value _
  putAppSettings s properties := by
    refine .bind (locate_alike (fun _ => rfl) _) fun url => ?_
    exact .bind (.inContext (request_alike _ _ url _) _) fun _ => .value _
  putSticky s names := by
    refine .bind (.inContext (slotConfiguration_alike s) _) fun _ => ?_
    refine .bind (locate_alike (fun _ => rfl) _) fun url => ?_
    exact .bind (.inContext (request_alike _ _ url _) _) fun _ => .value _
  getConnections s := by
    refine .bind (locate_alike (fun _ => rfl) _) fun url => ?_
    exact .inContext (request_alike _ _ url _) _
  putConnections s connections := by
    refine .bind (locate_alike (fun _ => rfl) _) fun url => ?_
    exact .bind (.inContext (request_alike _ _ url _) _) fun _ => .value _

end Rest

end WebAppTargets
