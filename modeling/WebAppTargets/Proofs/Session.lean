import WebAppTargets.Proofs.Announcements
import WebAppTargets.Proofs.Looking
import WebAppTargets.Proofs.Recorder

namespace WebAppTargets

theorem Action.exists_of_bind_ok {σ α β : Type} {x : Action σ α} {f : α → Action σ β} {w v : World σ}
    {b : β} (h : (x >>= f) w = (.ok b, v)) : ∃ a u, x w = (.ok a, u) ∧ f a u = (.ok b, v) := by
  rw [bind_apply] at h
  split at h
  · rename_i a u hx
    exact ⟨a, u, hx, h⟩
  · cases h

namespace Discovery

open WebAppTargets.Action

section

variable {σ : Type} [Client σ]

/-- What a session can fail in: opening the client and looking for targets. -/
def search (scope : Scope) (resourceGroup : String) : Action σ (List Match) := do
  Client.init
  find scope resourceGroup

theorem search_alike {τ : Type} {R : σ → τ → Prop} [Client τ] (h : Client.Alike R) (scope : Scope)
    (resourceGroup : String) : Alike R (search scope resourceGroup) (search scope resourceGroup) :=
  .bind h.init fun _ => h.find scope resourceGroup

/-- Asked for the slots of one web app after the other, the client gives these. -/
inductive GivesSlots (resourceGroup : String) : World σ → List (Resource × List Resource) → Prop
  | nil (w : World σ) : GivesSlots resourceGroup w []
  | cons {w u : World σ} {app : Resource} {slots : List Resource} {rest : List (Resource × List Resource)}
      (h : (Client.listSlots resourceGroup app.name : Action σ _) w = (.ok slots, u)) (t : Trace)
      (hrest : GivesSlots resourceGroup { u with trace := t } rest) :
      GivesSlots resourceGroup w ((app, slots) :: rest)

/-- Opened and asked for its listings, the client gives these web apps, each with its slots. -/
inductive Gives (c : σ) (resourceGroup : String) (listed : List (Resource × List Resource)) : Prop
  | mk {u w : World σ} (hinit : (Client.init : Action σ Unit) { client := c } = (.ok (), u))
      (happs : (Client.listWebApps resourceGroup : Action σ _) u = (.ok (listed.map Prod.fst), w))
      (hslots : GivesSlots resourceGroup w listed)

theorem givesSlots_of_withSlots {resourceGroup : String} {apps l : List Resource} {w v : World σ}
    (h : withSlots resourceGroup apps w = (.ok l, v)) :
    ∃ listed, listed.map Prod.fst = apps ∧ GivesSlots resourceGroup w listed ∧
      l = listed.flatMap fun e => e.1 :: e.2 := by
  induction apps generalizing w l with
  | nil =>
      cases h
      exact ⟨[], rfl, .nil _, rfl⟩
  | cons app apps ih =>
      obtain ⟨slots, u, hslots, htold⟩ := exists_of_bind_ok h
      obtain ⟨_, u', hemit, hjoined⟩ := exists_of_bind_ok htold
      obtain ⟨r, v', hrest, hl⟩ := exists_of_bind_ok hjoined
      cases hemit
      cases hl
      obtain ⟨listed, rfl, hgives, rfl⟩ := ih hrest
      exact ⟨(app, slots) :: listed, rfl, .cons hslots _ hgives, rfl⟩

theorem gives_of_search {scope : Scope} {resourceGroup : String} {c : σ} {found : List Match}
    (h : (search scope resourceGroup { client := c }).1 = .ok found) :
    ∃ listed, Gives c resourceGroup listed ∧ found = scope.scan (listed.flatMap fun e => e.1 :: e.2) := by
  obtain ⟨_, u, hinit, h⟩ := exists_of_bind_ok (Prod.ext h rfl)
  obtain ⟨l, v, h, hfound⟩ := exists_of_bind_ok h
  obtain ⟨apps, w, happs, h⟩ := exists_of_bind_ok h
  obtain ⟨listed, rfl, hslots, rfl⟩ := givesSlots_of_withSlots h
  exact ⟨listed, .mk hinit happs hslots, (Except.ok.inj (Prod.ext_iff.1 hfound).1).symm⟩

def told : Except Error (List Match) → Log
  | .ok found => found.flatMap announcement
  | .error _ => []

variable (scope : Scope) (resourceGroup : String)

theorem report_spec (w : World σ) :
    (report scope resourceGroup w).1 = (find scope resourceGroup w).1 ∧
      (report scope resourceGroup w).2.client = (find scope resourceGroup w).2.client ∧
      (report scope resourceGroup w).2.log =
        (find scope resourceGroup w).2.log ++ told (find scope resourceGroup w).1 := by
  unfold report
  cases hr : (find scope resourceGroup w).1 with
  | error e =>
      rw [bind_error (Prod.ext hr rfl)]
      exact ⟨rfl, rfl, (List.append_nil _).symm⟩
  | ok l =>
      rw [bind_ok (Prod.ext hr rfl), bind_ok (announce_apply l _)]
      exact ⟨rfl, rfl, rfl⟩

theorem session_of_init {w u : World σ} (h : (Client.init : Action σ Unit) w = (.ok (), u)) :
    (session scope resourceGroup w).1 = (report scope resourceGroup u).1 ∧
      ∃ t, (session scope resourceGroup w).2 =
        { ((Client.close : Action σ Unit) (report scope resourceGroup u).2).2 with trace := t } := by
  have hattempt {α : Type} (x : Action σ α) (u : World σ) :
      Action.attempt x u = (.ok (x u).1, (x u).2) := rfl
  rw [session, bind_ok h, bind_ok (hattempt _ u), bind_ok (hattempt _ _)]
  cases ((Client.close : Action σ Unit) (report scope resourceGroup u).2).1 with
  | ok _ => exact ⟨rfl, _, rfl⟩
  | error e => exact ⟨rfl, _, rfl⟩

/-- A session ends as its search does. Unless the client could not be opened, it is closed after that,
in a world where the matches were announced. -/
theorem session_ends (w : World σ) :
    (session scope resourceGroup w).1 = (search scope resourceGroup w).1 ∧
    ((told (search scope resourceGroup w).1 = [] ∧
        (session scope resourceGroup w).2 = (search scope resourceGroup w).2) ∨
      ∃ u t, u.client = (search scope resourceGroup w).2.client ∧
        u.log = (search scope resourceGroup w).2.log ++ told (search scope resourceGroup w).1 ∧
        (session scope resourceGroup w).2 = { ((Client.close : Action σ Unit) u).2 with trace := t }) := by
  cases hi : ((Client.init : Action σ Unit) w).1 with
  | error e =>
      have hinit : (Client.init : Action σ Unit) w = (.error e, _) := Prod.ext hi rfl
      rw [session, search, bind_error hinit, bind_error hinit]
      exact ⟨rfl, .inl ⟨rfl, rfl⟩⟩
  | ok _ =>
      have hinit : (Client.init : Action σ Unit) w = (.ok (), _) := Prod.ext hi rfl
      have hsearch : search scope resourceGroup w = find scope resourceGroup _ := bind_ok hinit
      obtain ⟨hresult, t, hworld⟩ := session_of_init scope resourceGroup hinit
      obtain ⟨hreport, hclient, hlog⟩ := report_spec scope resourceGroup ((Client.init : Action σ Unit) w).2
      rw [hsearch]
      exact ⟨hresult.trans hreport, .inr ⟨_, t, hclient, hlog, hworld⟩⟩

variable {C : σ → σ → Prop} [IsPreorder σ C]

theorem search_looks (h : Client.Looks C) : Looks C (search scope resourceGroup) := by
  have hparts : Parts (fun _ x => Looks C x : ∀ α, Action σ α → Prop) resourceGroup :=
    ⟨h.listWebApps resourceGroup, h.listSlots resourceGroup⟩
  exact .bind h.init fun _ => hparts.find Looks.composes scope

theorem session_spec (h : Client.Looks C) (w : World σ) :
    (session scope resourceGroup w).1 = (search scope resourceGroup w).1 ∧
      (session scope resourceGroup w).2.log = w.log ++ told (search scope resourceGroup w).1 ∧
      C w.client (session scope resourceGroup w).2.client := by
  obtain ⟨hresult, hworld⟩ := session_ends scope resourceGroup w
  obtain ⟨hclient, hlog⟩ := search_looks scope resourceGroup h w
  refine ⟨hresult, ?_⟩
  rcases hworld with ⟨htold, hworld⟩ | ⟨u, t, huclient, hulog, hworld⟩
  · rw [hworld, htold, List.append_nil]
    exact ⟨hlog, hclient⟩
  · obtain ⟨hcloseClient, hcloseLog⟩ := h.close u
    rw [hworld, ← hlog, ← hulog]
    exact ⟨hcloseLog, trans_of C hclient (huclient ▸ hcloseClient)⟩

end

section Recorder

variable {σ : Type} [Client σ] (scope : Scope) (resourceGroup : String)

open Recorder (Stops LeadTo)

def IsSearch (c : Call) : Prop := c.IsLook ∧ c ≠ .close

theorem search_stops :
    Stops IsSearch (search scope resourceGroup : Action (Recorder σ) _) := by
  have hparts : Parts (fun _ x => Stops IsSearch x : ∀ α, Action (Recorder σ) α → Prop) resourceGroup :=
    { listWebApps := .pass (c := .listWebApps resourceGroup) ⟨trivial, nofun⟩ _
      listSlots := fun app => .pass (c := .listSlots resourceGroup app) ⟨trivial, nofun⟩ _ }
  exact .bind (.pass (c := .init) ⟨trivial, nofun⟩ _) fun _ => hparts.find Stops.composes scope

/-- A session asks for what the search in it needs, until something fails, and closes the client. -/
theorem session_history (w : World (Recorder σ)) :
    ∃ l k, (session scope resourceGroup w).2.client.history = w.client.history ++ l ++ k ∧
      (∀ a ∈ l, IsSearch a.call) ∧ LeadTo l (session scope resourceGroup w).1 ∧
      ∀ a ∈ k, a.call = .close := by
  obtain ⟨hresult, hworld⟩ := session_ends scope resourceGroup w
  obtain ⟨l, hl, hsearch, hlead⟩ := search_stops scope resourceGroup w
  rw [← hresult] at hlead
  rcases hworld with ⟨-, hworld⟩ | ⟨u, t, huclient, -, hworld⟩
  · exact ⟨l, [], by rw [hworld, hl, List.append_nil], hsearch, hlead, by simp⟩
  · obtain ⟨fault, hclose⟩ : ∃ fault, ((Client.close : Action (Recorder σ) Unit) u).2.client.history =
        u.client.history ++ [⟨.close, fault⟩] := ⟨_, rfl⟩
    refine ⟨l, [⟨.close, fault⟩], ?_, hsearch, hlead, by simp⟩
    rw [hworld, ← hl, ← huclient]
    exact hclose

end Recorder

end Discovery

end WebAppTargets
