import WebAppTargets.Client.Config
import WebAppTargets.Client.Operations
import WebAppTargets.Discovery.Context
import WebAppTargets.Discovery.Scan

namespace WebAppTargets

namespace Discovery

variable {σ : Type} [Client σ]

def withSlots (resourceGroup : String) : List Resource → Action σ (List Resource)
  | [] => pure []
  | app :: rest => do
      let slots ← Client.listSlots resourceGroup app.name
      Action.emit [⟨.debug, "enumerated web app",
        [("web_app", app.name), ("resource_group", resourceGroup), ("slots", toString slots.length)]⟩]
      return app :: slots ++ (← withSlots resourceGroup rest)

def candidates (resourceGroup : String) : Action σ (List Resource) := do
  withSlots resourceGroup (← Client.listWebApps resourceGroup)

def find (scope : Scope) (resourceGroup : String) : Action σ (List Match) := do
  return scope.scan (← candidates resourceGroup)

def announce : List Match → Action σ Unit
  | [] => pure ()
  | m :: rest => do
      Action.write .debug s!"Discovered matching web app target {m.target}"
      Action.announce m.message
      announce rest

def report (scope : Scope) (resourceGroup : String) : Action σ (List Match) := do
  let found ← find scope resourceGroup
  announce found
  Action.emit [⟨.info, "target discovery complete",
    [("resource_group", resourceGroup), ("matches", toString found.length)]⟩]
  return found

/-- Opens the client, looks for targets and closes it. A failure to close is only told. -/
def session (scope : Scope) (resourceGroup : String) : Action σ (List Match) := do
  Client.init
  let outcome ← Action.attempt (report scope resourceGroup)
  match ← Action.attempt (Client.close (σ := σ)) with
  | .ok () => pure ()
  | .error e =>
      let name := Client.name (← Action.client (σ := σ))
      Action.emit [⟨.warn, "failed to close client after target discovery",
        [("client", name), ("error", e.message)]⟩]
  Action.ofExcept outcome

inductive Obstacle where
  | noContext
  | badContext (e : Error)
  | noSubscription
  | noResourceGroup

def Obstacle.message : Obstacle → String
  | .noContext => s!"Target discovery is disabled: variable {Variable.discoveryContext} is not set."
  | .badContext e =>
      s!"Target discovery is disabled: could not read the discovery context: {e.message}"
  | .noSubscription => "Target discovery is disabled: the account has no subscription id."
  | .noResourceGroup =>
      s!"Target discovery is disabled: variable {Variable.resourceGroup} is not set."

def plan (v : Variables) : Except Obstacle (Context × String) := do
  let text ← match v.nonBlank? Variable.discoveryContext with
    | some text => pure text
    | none => throw .noContext
  let context ← (Context.parse text).mapError .badContext
  if !context.account.hasSubscription then throw .noSubscription
  match v.nonBlank? Variable.resourceGroup with
  | some rg => return (context, rg)
  | none => throw .noResourceGroup

/-- What a run leaves. There is no client when none was needed, or none could be made. -/
structure Report (σ : Type) where
  outcome : Except Error (List Match)
  log : Log := []
  trace : Trace := []
  config : Option Config := none
  client : Option σ := none

def run (make : Config → Except Error σ) (v : Variables) (config : Config) : Report σ :=
  match plan v with
  | .error o => { outcome := .ok [], log := [.line .warn o.message] }
  | .ok (context, rg) =>
      let config := config.withAccount context.account
      match make config with
      | .error e => { outcome := .error e, config }
      | .ok client =>
          let (outcome, w) := session context.scope rg { client }
          { outcome, log := w.log, trace := w.trace, config, client := w.client }

end Discovery

end WebAppTargets
