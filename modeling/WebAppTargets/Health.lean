import WebAppTargets.Account
import WebAppTargets.Client.Operations

namespace WebAppTargets.Health

variable {σ : Type} [Client σ]

/-- The site to look for. A slot in the web app's name is checked but not looked for. -/
def site (v : Variables) : Except Error Site := do
  let webApp ← (v.nonBlank? Variable.webApp).elim (.error (.required "Web App Name")) .ok
  let resourceGroup ←
    (v.nonBlank? Variable.resourceGroup).elim (.error (.required "resource group name")) .ok
  let site := Site.parse resourceGroup webApp none
  site.validate
  return site

def publish (r : Resource) : Action σ Unit :=
  match r.plan with
  | some plan => Action.announce (.setVariable Variable.servicePlan plan)
  | none => Action.write .warn s!"Web app {r.name} reports no App Service plan"

def check (v : Variables) : Action σ Resource := do
  let s ← Action.ofExcept (site v)
  match ← Client.getWebApp s.resourceGroup s.webApp with
  | none =>
      Action.fail (.siteNotFound s.webApp s.resourceGroup (Account.ofVariables v).subscription)
  | some r => do
      publish r
      Action.emit [⟨.info, "health check passed",
        [("web_app", s.webApp), ("resource_group", s.resourceGroup)]⟩]
      return r

end WebAppTargets.Health
