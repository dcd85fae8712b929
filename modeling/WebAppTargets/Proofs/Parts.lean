import WebAppTargets.Discovery.Run
import WebAppTargets.Reconcile

namespace WebAppTargets

variable {σ : Type} {J : ∀ α : Type, Action σ α → Prop}

/-- The property goes from the parts of an action to the whole. Values and traces always have it. -/
structure Action.Composes (J : ∀ α : Type, Action σ α → Prop) : Prop where
  value {α : Type} (a : α) : J α (pure a)
  emit (t : Trace) : J Unit (Action.emit t)
  bind {α β : Type} {x : Action σ α} {f : α → Action σ β} (hx : J α x) (hf : ∀ a, J β (f a)) :
    J β (x >>= f)

variable [Client σ]

namespace Reconcile

structure Parts (J : ∀ α : Type, Action σ α → Prop) (s : Site) : Prop where
  write (level : Level) (text : String) : J Unit (Action.write level text)
  getAppSettings : J _ (Client.getAppSettings s)
  putAppSettings (properties : Table String) : J Unit (Client.putAppSettings s properties)
  putSticky (names : NameSet) : J Unit (Client.putSticky s names)
  getConnections : J _ (Client.getConnections s)
  putConnections (connections : Table ConnectionString) :
    J Unit (Client.putConnections s connections)

namespace Parts

variable {s : Site} (h : Parts J s) (hJ : Action.Composes J)

include h hJ

theorem writeSticky (names : NameSet) : J Unit (writeSticky s names) := by
  unfold Reconcile.writeSticky
  split
  · exact hJ.emit _
  · exact hJ.bind (h.write _ _) fun _ => h.putSticky names

theorem appSettings (d : List AppSetting) : J _ (appSettings s d) := by
  unfold Reconcile.appSettings
  split
  · exact hJ.value none
  · refine hJ.bind h.getAppSettings fun _ => hJ.bind (h.write _ _) fun _ => ?_
    refine hJ.bind (h.putAppSettings _) fun _ => hJ.bind (h.writeSticky hJ _) fun _ => ?_
    exact hJ.bind (hJ.emit _) fun _ => hJ.value _

theorem connections (d : List ConnectionSetting) : J _ (connections s d) := by
  unfold Reconcile.connections
  split
  · exact hJ.value none
  · refine hJ.bind h.getConnections fun _ => hJ.bind (h.write _ _) fun _ => ?_
    exact hJ.bind (h.putConnections _) fun _ => hJ.bind (hJ.emit _) fun _ => hJ.value _

theorem site (d : Desired) : J Unit (site s d) :=
  hJ.bind (h.appSettings hJ _) fun _ => hJ.bind (h.connections hJ _) fun _ => hJ.value ()

end Parts

end Reconcile

namespace Discovery

structure Parts (J : ∀ α : Type, Action σ α → Prop) (resourceGroup : String) : Prop where
  listWebApps : J _ (Client.listWebApps resourceGroup)
  listSlots (webApp : String) : J _ (Client.listSlots resourceGroup webApp)

namespace Parts

variable {resourceGroup : String} (h : Parts J resourceGroup) (hJ : Action.Composes J)

include h hJ

theorem withSlots (apps : List Resource) : J _ (withSlots resourceGroup apps) := by
  induction apps with
  | nil => exact hJ.value []
  | cons app apps ih =>
      refine hJ.bind (h.listSlots app.name) fun _ => hJ.bind (hJ.emit _) fun _ => ?_
      exact hJ.bind ih fun _ => hJ.value _

theorem find (scope : Scope) : J _ (find scope resourceGroup) :=
  hJ.bind (hJ.bind h.listWebApps fun apps => h.withSlots hJ apps) fun _ => hJ.value _

end Parts

end Discovery

end WebAppTargets
