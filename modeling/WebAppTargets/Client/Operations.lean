import WebAppTargets.Action
import WebAppTargets.Resource
import WebAppTargets.Setting

namespace WebAppTargets

class Client (σ : Type) where
  name : σ → String
  init : Action σ Unit
  close : Action σ Unit
  listWebApps (resourceGroup : String) : Action σ (List Resource)
  listSlots (resourceGroup webApp : String) : Action σ (List Resource)
  /-- No resource when there is none of that name. -/
  getWebApp (resourceGroup webApp : String) : Action σ (Option Resource)
  getAppSettings (site : Site) : Action σ (List AppSetting)
  putAppSettings (site : Site) (properties : Table String) : Action σ Unit
  /-- Replaces the sticky names of the site's web app, which its slots share. -/
  putSticky (site : Site) (names : NameSet) : Action σ Unit
  getConnections (site : Site) : Action σ (Table ConnectionString)
  putConnections (site : Site) (connections : Table ConnectionString) : Action σ Unit

end WebAppTargets
