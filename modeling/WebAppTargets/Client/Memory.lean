import WebAppTargets.Client.Operations

namespace WebAppTargets

inductive Call where
  | init
  | close
  | listWebApps (resourceGroup : String)
  | listSlots (resourceGroup webApp : String)
  | getWebApp (resourceGroup webApp : String)
  | getAppSettings (site : Site)
  | putAppSettings (site : Site)
  | putSticky (site : Site)
  | getConnections (site : Site)
  | putConnections (site : Site)
  deriving DecidableEq

namespace Call

def name : Call → String
  | .init => "init"
  | .close => "close"
  | .listWebApps _ => "list_web_apps"
  | .listSlots _ _ => "list_slots"
  | .getWebApp _ _ => "get_web_app"
  | .getAppSettings _ => "get_app_settings"
  | .putAppSettings _ => "put_app_settings"
  | .putSticky _ => "put_slot_settings_list"
  | .getConnections _ => "get_connection_strings"
  | .putConnections _ => "put_connection_strings"

/-- Opening and closing are no calls of the service. -/
def isService : Call → Bool
  | .init => false
  | .close => false
  | _ => true

end Call

/-- A client that keeps everything in memory, fails where it is told to and remembers its calls. It
is more general than a plain stand-in for the service: opening can fail too (`initError`), and
opening and closing are remembered with the calls of the service. -/
structure Memory where
  resources : List Resource := []
  appSettings : Site → Table String := fun _ => .empty
  connections : Site → Table ConnectionString := fun _ => .empty
  /-- By resource group and web app. -/
  stickyNames : String → String → NameSet := fun _ _ => .empty
  calls : List Call := []
  initError : Option Error := none
  listError : Option Error := none
  getError : Option Error := none
  putSettingsError : Option Error := none
  putStickyError : Option Error := none
  putConnectionsError : Option Error := none
  closeError : Option Error := none

namespace Memory

variable (m : Memory)

def sticky (site : Site) : NameSet := m.stickyNames site.resourceGroup site.webApp

def setAppSettings (site : Site) (t : Table String) : Memory :=
  { m with appSettings := fun s => if s = site then t else m.appSettings s }

def setConnections (site : Site) (t : Table ConnectionString) : Memory :=
  { m with connections := fun s => if s = site then t else m.connections s }

def setSticky (site : Site) (names : NameSet) : Memory :=
  { m with stickyNames := fun rg app =>
      if rg = site.resourceGroup ∧ app = site.webApp then names else m.stickyNames rg app }

def webApps (resourceGroup : String) : List Resource :=
  m.resources.filter fun r => !r.isSlot && r.resourceGroup == resourceGroup

def slots (resourceGroup webApp : String) : List Resource :=
  m.resources.filter fun r =>
    r.isSlot && r.resourceGroup == resourceGroup && r.parent == some webApp

def webApp? (resourceGroup webApp : String) : Option Resource :=
  (m.webApps resourceGroup).find? fun r => r.name == webApp

def settings (site : Site) : List AppSetting :=
  (m.appSettings site).entries.map fun e => ⟨e.1, e.2, (m.sticky site).contains e.1⟩

/-- Adds one app setting; it may make its name sticky but takes no stickiness away. -/
def addSetting (site : Site) (s : AppSetting) : Memory :=
  (if s.isSticky then m.setSticky site ((m.sticky site).insert s.name ()) else m).setAppSettings site
    ((m.appSettings site).insert s.name s.value)

def addConnection (site : Site) (s : ConnectionSetting) : Memory :=
  m.setConnections site ((m.connections site).insert s.name ⟨s.value, s.kind⟩)

/-- Remembers a call, and fails with the text of the given error. -/
def call (c : Call) (fault : Memory → Option Error) : Action Memory Unit := do
  Action.modify fun m => { m with calls := m.calls ++ [c] }
  match fault (← Action.client) with
  | some e => Action.fail (.other e.message)
  | none => pure ()

instance : Client Memory where
  name _ := "mock"
  init := do
    Action.modify fun m => { m with calls := m.calls ++ [.init] }
    match (← Action.client).initError with
    | some e => Action.fail e
    | none => pure ()
  close := call .close closeError
  listWebApps rg := do
    call (.listWebApps rg) listError
    return (← Action.client).webApps rg
  listSlots rg app := do
    call (.listSlots rg app) listError
    return (← Action.client).slots rg app
  getWebApp rg app := do
    call (.getWebApp rg app) listError
    return (← Action.client).webApp? rg app
  getAppSettings site := do
    call (.getAppSettings site) getError
    return (← Action.client).settings site
  putAppSettings site properties := do
    call (.putAppSettings site) putSettingsError
    Action.modify (·.setAppSettings site properties)
  putSticky site names := do
    call (.putSticky site) putStickyError
    Action.modify (·.setSticky site names)
  getConnections site := do
    call (.getConnections site) getError
    return (← Action.client).connections site
  putConnections site connections := do
    call (.putConnections site) putConnectionsError
    Action.modify (·.setConnections site connections)

end Memory

end WebAppTargets
