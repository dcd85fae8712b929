import WebAppTargets.Client.Operations
import WebAppTargets.Snapshot
import WebAppTargets.Variables

namespace WebAppTargets

structure Desired where
  appSettings : List AppSetting
  connections : List ConnectionSetting
  deriving DecidableEq

namespace Desired

def isEmpty (d : Desired) : Bool := d.appSettings.isEmpty && d.connections.isEmpty

/-- A JSON array in a variable; there are no items when the variable is blank. -/
def items {α : Type} (d : Json.Decoder α) (v : Variables) (name : String) :
    Except Error (List α) :=
  match v.nonBlank? name with
  | some text => (Json.decodeText (Json.Decoder.list d) text).mapError .json
  | none => .ok []

def ofVariables (v : Variables) : Except Error Desired := do
  let appSettings ← items AppSetting.decode v Variable.appSettings
  let connections ← items ConnectionSetting.decode v Variable.connectionStrings
  return { appSettings, connections }

end Desired

namespace Reconcile

variable {σ : Type} [Client σ]

def writeSticky (site : Site) (names : NameSet) : Action σ Unit := do
  if names.isEmpty then
    Action.emit [⟨.debug, "no slot settings to write", [("site", site.text)]⟩]
  else
    Action.write .debug s!"Updating slot settings on {site.text}"
    Client.putSticky site names

def appSettings (site : Site) (desired : List AppSetting) : Action σ (Option Snapshot) := do
  if desired.isEmpty then return none
  let merged := (Snapshot.ofEntries (← Client.getAppSettings site)).merge desired
  Action.write .debug s!"Updating application settings on {site.text}"
  Client.putAppSettings site merged.properties
  writeSticky site merged.sticky
  Action.emit [⟨.info, "app settings reconciled",
    [("site", site.text), ("settings", toString merged.properties.size),
     ("slot_settings", toString merged.sticky.size)]⟩]
  return some merged

def connections (site : Site) (desired : List ConnectionSetting) :
    Action σ (Option (Table ConnectionString)) := do
  if desired.isEmpty then return none
  let merged := mergeConnections (← Client.getConnections site) desired
  Action.write .debug s!"Updating connection strings on {site.text}"
  Client.putConnections site merged
  Action.emit [⟨.info, "connection strings reconciled",
    [("site", site.text), ("connection_strings", toString merged.size)]⟩]
  return some merged

def site (s : Site) (desired : Desired) : Action σ Unit := do
  let _ ← appSettings s desired.appSettings
  let _ ← connections s desired.connections

/-- The site and the desired settings that the variables give, or nothing if both settings variables
are blank. -/
def plan (v : Variables) : Except Error (Option (Site × Desired)) := do
  if (v.nonBlank? Variable.appSettings).isNone && (v.nonBlank? Variable.connectionStrings).isNone then
    return none
  let webApp ← (v.nonBlank? Variable.webApp).elim (.error (.required "Web App Name")) .ok
  let resourceGroup ←
    (v.nonBlank? Variable.resourceGroup).elim (.error (.required "resource group name")) .ok
  let site := Site.parse resourceGroup webApp (v.get? Variable.slot)
  site.validate
  return some (site, ← Desired.ofVariables v)

def run (v : Variables) : Action σ (Option Site) := do
  match ← Action.ofExcept (plan v) with
  | none =>
      Action.emit [⟨.debug, "no app settings or connection strings configured", []⟩]
      return none
  | some (s, desired) =>
      site s desired
      return some s

end Reconcile

end WebAppTargets
