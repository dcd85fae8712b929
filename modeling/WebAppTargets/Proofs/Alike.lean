import WebAppTargets.Client.Registry
import WebAppTargets.Discovery.Run
import WebAppTargets.Reconcile

namespace WebAppTargets

variable {σ τ α β : Type} {R : σ → τ → Prop}

structure World.Alike (R : σ → τ → Prop) (w : World σ) (v : World τ) : Prop where
  client : R w.client v.client
  log : w.log = v.log
  trace : w.trace = v.trace

namespace Action

/-- In worlds that are alike the actions give the same, and leave worlds that are alike. -/
def Alike (R : σ → τ → Prop) (x : Action σ α) (y : Action τ α) : Prop :=
  ∀ w v, World.Alike R w v → (x w).1 = (y v).1 ∧ World.Alike R (x w).2 (y v).2

namespace Alike

variable {x : Action σ α} {y : Action τ α}

theorem bind {f : α → Action σ β} {g : α → Action τ β} (hx : Alike R x y)
    (hf : ∀ a, Alike R (f a) (g a)) : Alike R (x >>= f) (y >>= g) := by
  intro w v h
  obtain ⟨hr, h'⟩ := hx w v h
  cases hy : (y v).1 with
  | error e =>
      rw [hy] at hr
      rw [bind_error (Prod.ext hr rfl), bind_error (Prod.ext hy rfl)]
      exact ⟨rfl, h'⟩
  | ok a =>
      rw [hy] at hr
      rw [bind_ok (Prod.ext hr rfl), bind_ok (Prod.ext hy rfl)]
      exact hf a _ _ h'

theorem value (a : α) : Alike R (pure a) (pure a) := fun _ _ h => ⟨rfl, h⟩

theorem ofExcept (r : Except Error α) : Alike R (Action.ofExcept r) (Action.ofExcept r) :=
  fun _ _ h => ⟨rfl, h⟩

theorem write (level : Level) (text : String) :
    Alike R (Action.write level text) (Action.write level text) :=
  fun _ _ h => ⟨rfl, h.client, congrArg (· ++ _) h.log, h.trace⟩

theorem announce (m : ServiceMessage) : Alike R (Action.announce m) (Action.announce m) :=
  fun _ _ h => ⟨rfl, h.client, congrArg (· ++ _) h.log, h.trace⟩

theorem emit (t : Trace) : Alike R (Action.emit t) (Action.emit t) :=
  fun _ _ h => ⟨rfl, h.client, h.log, congrArg (· ++ _) h.trace⟩

theorem modify {f : σ → σ} {g : τ → τ} (hf : ∀ c d, R c d → R (f c) (g d)) :
    Alike R (Action.modify f) (Action.modify g) :=
  fun _ _ h => ⟨rfl, hf _ _ h.client, h.log, h.trace⟩

theorem fail (e : Error) : Alike R (Action.fail e : Action σ α) (Action.fail e : Action τ α) :=
  fun _ _ h => ⟨rfl, h⟩

theorem bind_client {f : σ → Action σ α} {g : τ → Action τ α}
    (hf : ∀ c d, R c d → Alike R (f c) (g d)) :
    Alike R (Action.client >>= f) (Action.client >>= g) :=
  fun w v h => hf w.client v.client h.client w v h

theorem attempt (hx : Alike R x y) : Alike R (Action.attempt x) (Action.attempt y) := by
  intro w v h
  obtain ⟨hr, h'⟩ := hx w v h
  exact ⟨congrArg Except.ok hr, h'⟩

theorem same (x : Action σ α) : Alike Eq x x := by
  rintro ⟨_, _, _⟩ ⟨_, _, _⟩ ⟨rfl, rfl, rfl⟩
  exact ⟨rfl, rfl, rfl, rfl⟩

theorem inContext (hx : Alike R x y) (f : Error → Error) :
    Alike R (Action.inContext f x) (Action.inContext f y) := by
  intro w v h
  obtain ⟨hr, h'⟩ := hx w v h
  exact ⟨congrArg (Except.mapError f) hr, h'⟩

end Alike

end Action

structure Client.Alike (R : σ → τ → Prop) [Client σ] [Client τ] : Prop where
  init : Action.Alike R Client.init Client.init
  listWebApps (resourceGroup : String) :
    Action.Alike R (Client.listWebApps resourceGroup) (Client.listWebApps resourceGroup)
  listSlots (resourceGroup webApp : String) :
    Action.Alike R (Client.listSlots resourceGroup webApp) (Client.listSlots resourceGroup webApp)
  getWebApp (resourceGroup webApp : String) :
    Action.Alike R (Client.getWebApp resourceGroup webApp) (Client.getWebApp resourceGroup webApp)
  getAppSettings (s : Site) : Action.Alike R (Client.getAppSettings s) (Client.getAppSettings s)
  putAppSettings (s : Site) (properties : Table String) :
    Action.Alike R (Client.putAppSettings s properties) (Client.putAppSettings s properties)
  putSticky (s : Site) (names : NameSet) :
    Action.Alike R (Client.putSticky s names) (Client.putSticky s names)
  getConnections (s : Site) : Action.Alike R (Client.getConnections s) (Client.getConnections s)
  putConnections (s : Site) (connections : Table ConnectionString) :
    Action.Alike R (Client.putConnections s connections) (Client.putConnections s connections)

namespace Client.Alike

variable [Client σ] [Client τ] (h : Client.Alike R)

section Reconcile

variable (s : Site)

include h

theorem writeSticky (names : NameSet) :
    Action.Alike R (Reconcile.writeSticky s names) (Reconcile.writeSticky s names) := by
  unfold Reconcile.writeSticky
  split
  · exact .emit _
  · exact .bind (.write _ _) fun _ => h.putSticky s names

theorem appSettings (d : List AppSetting) :
    Action.Alike R (Reconcile.appSettings s d) (Reconcile.appSettings s d) := by
  unfold Reconcile.appSettings
  split
  · exact .value none
  · refine .bind (h.getAppSettings s) fun _ => .bind (.write _ _) fun _ => ?_
    refine .bind (h.putAppSettings s _) fun _ => .bind (h.writeSticky s _) fun _ => ?_
    exact .bind (.emit _) fun _ => .value _

theorem connections (d : List ConnectionSetting) :
    Action.Alike R (Reconcile.connections s d) (Reconcile.connections s d) := by
  unfold Reconcile.connections
  split
  · exact .value none
  · refine .bind (h.getConnections s) fun _ => .bind (.write _ _) fun _ => ?_
    exact .bind (h.putConnections s _) fun _ => .bind (.emit _) fun _ => .value _

theorem site (d : Desired) : Action.Alike R (Reconcile.site s d) (Reconcile.site s d) :=
  .bind (h.appSettings s _) fun _ => .bind (h.connections s _) fun _ => .value ()

theorem reconcile (v : Variables) : Action.Alike R (Reconcile.run v) (Reconcile.run v) := by
  refine .bind (.ofExcept (Reconcile.plan v)) fun planned => ?_
  cases planned with
  | none => exact .bind (.emit _) fun _ => .value none
  | some p => exact .bind (h.site p.1 p.2) fun _ => .value _

end Reconcile

section Discovery

variable (scope : Scope) (resourceGroup : String)

include h in
theorem withSlots (apps : List Resource) :
    Action.Alike R (Discovery.withSlots resourceGroup apps) (Discovery.withSlots resourceGroup apps) := by
  induction apps with
  | nil => exact .value []
  | cons app apps ih =>
      refine .bind (h.listSlots resourceGroup app.name) fun _ => .bind (.emit _) fun _ => ?_
      exact .bind ih fun _ => .value _

include h in
theorem find :
    Action.Alike R (Discovery.find scope resourceGroup) (Discovery.find scope resourceGroup) := by
  have hcandidates : Action.Alike R (Discovery.candidates resourceGroup)
      (Discovery.candidates resourceGroup) :=
    .bind (h.listWebApps resourceGroup) fun apps => h.withSlots resourceGroup apps
  exact .bind hcandidates fun _ => .value _

omit [Client σ] [Client τ] in
theorem announce (l : List Match) :
    Action.Alike R (Discovery.announce l) (Discovery.announce l) := by
  induction l with
  | nil => exact .value ()
  | cons m l ih => exact .bind (.write _ _) fun _ => .bind (.announce _) fun _ => ih

include h in
theorem report :
    Action.Alike R (Discovery.report scope resourceGroup) (Discovery.report scope resourceGroup) := by
  refine .bind (h.find scope resourceGroup) fun l => ?_
  exact .bind (announce l) fun _ => .bind (.emit _) fun _ => .value l

include h in
theorem session (hclose : Action.Alike R Client.close Client.close)
    (hname : ∀ c d, R c d → Client.name c = Client.name d) :
    Action.Alike R (Discovery.session scope resourceGroup)
      (Discovery.session scope resourceGroup) := by
  refine .bind h.init fun _ => .bind (.attempt (h.report scope resourceGroup)) fun outcome => ?_
  refine .bind (.attempt hclose) fun closed => ?_
  cases closed with
  | ok _ => exact .bind (.value ()) fun _ => .ofExcept outcome
  | error e =>
      refine .bind_client fun c d hcd => ?_
      rw [hname c d hcd]
      exact .bind (.emit _) fun _ => .ofExcept outcome

end Discovery

end Client.Alike

theorem Client.alike_eq [Client σ] : Client.Alike (Eq : σ → σ → Prop) := by
  constructor <;> intros <;> exact .same _

namespace AnyClient

inductive Both (M : Memory → Memory → Prop) (N : Rest → Rest → Prop) : AnyClient → AnyClient → Prop
  | memory {m m' : Memory} (h : M m m') : Both M N (.memory m) (.memory m')
  | rest {r r' : Rest} (h : N r r') : Both M N (.rest r) (.rest r')

variable {M : Memory → Memory → Prop} {N : Rest → Rest → Prop}

theorem either_alike {x : Action Memory α} {y : Action Rest α} (hx : Action.Alike M x x)
    (hy : Action.Alike N y y) : Action.Alike (Both M N) (either x y) (either x y) := by
  rintro ⟨_, log, trace⟩ ⟨_, _, _⟩ ⟨hc, rfl, rfl⟩
  cases hc with
  | @memory m m' h =>
      obtain ⟨hr, hc, hl, ht⟩ := hx ⟨m, log, trace⟩ ⟨m', log, trace⟩ ⟨h, rfl, rfl⟩
      exact ⟨hr, .memory hc, hl, ht⟩
  | @rest r r' h =>
      obtain ⟨hr, hc, hl, ht⟩ := hy ⟨r, log, trace⟩ ⟨r', log, trace⟩ ⟨h, rfl, rfl⟩
      exact ⟨hr, .rest hc, hl, ht⟩

theorem alike (hm : Client.Alike M) (hn : Client.Alike N) : Client.Alike (Both M N) where
  init := either_alike hm.init hn.init
  listWebApps _ := either_alike (hm.listWebApps _) (hn.listWebApps _)
  listSlots _ _ := either_alike (hm.listSlots _ _) (hn.listSlots _ _)
  getWebApp _ _ := either_alike (hm.getWebApp _ _) (hn.getWebApp _ _)
  getAppSettings _ := either_alike (hm.getAppSettings _) (hn.getAppSettings _)
  putAppSettings _ _ := either_alike (hm.putAppSettings _ _) (hn.putAppSettings _ _)
  putSticky _ _ := either_alike (hm.putSticky _ _) (hn.putSticky _ _)
  getConnections _ := either_alike (hm.getConnections _) (hn.getConnections _)
  putConnections _ _ := either_alike (hm.putConnections _ _) (hn.putConnections _ _)

end AnyClient

end WebAppTargets
