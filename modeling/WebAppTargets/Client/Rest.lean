import WebAppTargets.Client.Config
import WebAppTargets.Client.Network
import WebAppTargets.Client.Operations
import WebAppTargets.Client.Shapes

namespace WebAppTargets

structure Rest where
  account : Account
  token : String
  version : String
  baseOverride : Option String
  /-- Where addresses start, without a slash at the end; known once the client is open. -/
  base : String := ""
  isOpen : Bool := false
  network : Network

namespace Rest

def usualVersion : String := "2022-03-01"

def withoutSlash (s : String) : String := String.ofList (Text.dropEnd '/' s.toList)

/-- A token that the options do not give is that of the environment, if it has one. -/
def ofConfig (network : Network) (c : Config) (environment : Option String := none) : Rest where
  account := c.account
  token := (c.option? "access_token").getD (environment.getD "")
  version := (c.option? "api_version").getD usualVersion
  baseOverride := ((c.option? "base_url").filter fun s => !Text.isBlankText s).map withoutSlash
  network

section Url

variable (r : Rest)

def groupUrl (resourceGroup : String) : Except Error String := do
  (Naming.checkResourceGroup resourceGroup).mapError .ofName
  return s!"{r.base}/subscriptions/{r.account.subscription}/resourceGroups/{resourceGroup}/providers/Microsoft.Web"

def webAppUrl (resourceGroup webApp : String) : Except Error String := do
  (Naming.checkWebApp webApp).mapError .ofName
  let group ← r.groupUrl resourceGroup
  return s!"{group}/sites/{webApp}"

def siteUrl (s : Site) : Except Error String := do
  s.validate
  let app ← r.webAppUrl s.resourceGroup s.webApp
  match s.slot with
  | some slot => return s!"{app}/slots/{slot}"
  | none => return app

def versioned (url : String) : String := s!"{url}?api-version={r.version}"

end Url

variable {α : Type}

def locate (url : Rest → Except Error String) (part : String) : Action Rest String := do
  let r ← Action.client
  return r.versioned ((← Action.ofExcept (url r)) ++ part)

def exchange (method : Method) (url : String) (body : Option Json.Value) : Action Rest Body := do
  Action.emit [⟨.debug, method.text, [("url", url)]⟩]
  let r ← Action.client
  if r.isOpen then
    let (outcome, network) := r.network.send { method, url, token := r.token, body }
    Action.modify fun r => { r with network }
    Action.ofExcept outcome
  else Action.fail .notAuthenticated

def request (d : Json.Decoder α) (method : Method) (url : String) (body : Option Json.Value := none) :
    Action Rest α := do
  let reply ← exchange method url body
  Action.ofExcept ((Json.decodeLetters d reply.letters).mapError fun _ => .other "error decoding response body")

def during (operation site : String) (x : Action Rest α) : Action Rest α :=
  Action.inContext (.operation "arm" operation site) x

/-- A listing from the page at `url` on, when the service has replies for so many more pages. -/
def pages : Nat → String → Action Rest (List ListedSite)
  | 0, url => do
      let page ← request Page.decode .get url
      return page.sites
  | n + 1, url => do
      let page ← request Page.decode .get url
      match page.next with
      | some next => return page.sites ++ (← pages n next)
      | none => return page.sites

/-- A whole listing. Every page takes a reply, and without one there is no page. -/
def listing (url : String) : Action Rest (List ListedSite) := do
  pages (← Action.client).network.replies.length url

def slotConfiguration (s : Site) : Action Rest SlotConfiguration := do
  let url ← locate (·.webAppUrl s.resourceGroup s.webApp) "/config/slotConfigNames"
  request SlotConfiguration.decode .get url

instance : Client Rest where
  name _ := "arm"
  init := do
    let r ← Action.client
    Action.ofExcept ((Naming.checkSubscription r.account.subscription).mapError .ofName)
    if Text.isBlankText r.token then Action.fail .notAuthenticated
    match r.baseOverride with
    | some base => Action.modify fun r => { r with base, isOpen := true }
    | none =>
        Action.emit (r.account.endpointNotices r.account.managementOverride)
        Action.modify fun r =>
          { r with base := withoutSlash r.account.managementEndpoint, isOpen := true }
  close := Action.modify fun r => { r with isOpen := false }
  listWebApps rg := do
    let url ← locate (·.groupUrl rg) "/sites"
    let sites ← during "list-web-apps" rg (listing url)
    return sites.map (·.webApp rg)
  listSlots rg app := do
    let url ← locate (·.webAppUrl rg app) "/slots"
    let sites ← during "list-slots" app (listing url)
    return sites.map (·.slot rg app)
  getWebApp rg app := do
    let url ← locate (·.webAppUrl rg app) ""
    match ← Action.attempt (request ListedSite.decode .get url) with
    | .ok s => return some (s.webApp rg)
    | .error (.notFound _) => return none
    | .error e => Action.fail (.operation "arm" "get-web-app" app e)
  getAppSettings site := do
    let url ← locate (·.siteUrl site) "/config/appsettings/list"
    let properties ← during "get-settings" site.text (request AppSettings.decode .post url)
    let configuration ← during "get-slot-settings" site.text (slotConfiguration site)
    let sticky := NameSet.ofList configuration.names
    return properties.entries.map fun e => ⟨e.1, e.2, sticky.contains e.1⟩
  putAppSettings site properties := do
    let url ← locate (·.siteUrl site) "/config/appsettings"
    let _ ← during "put-settings" site.text
      (request AppSettings.decode .put url (AppSettings.json properties))
  putSticky site names := do
    let configuration ← during "get-slot-settings" site.text (slotConfiguration site)
    let url ← locate (·.webAppUrl site.resourceGroup site.webApp) "/config/slotConfigNames"
    let _ ← during "put-slot-settings" site.text
      (request SlotConfiguration.decode .put url (configuration.withNames names).json)
  getConnections site := do
    let url ← locate (·.siteUrl site) "/config/connectionstrings/list"
    during "get-connection-strings" site.text (request ConnectionStrings.decode .post url)
  putConnections site connections := do
    let url ← locate (·.siteUrl site) "/config/connectionstrings"
    let _ ← during "put-connection-strings" site.text
      (request ConnectionStrings.decode .put url (ConnectionStrings.json connections))

end Rest

end WebAppTargets
