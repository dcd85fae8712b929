import WebAppTargets.Client.Memory
import WebAppTargets.Client.Rest

namespace WebAppTargets

variable {σ : Type}

abbrev Registry (σ : Type) := Table (Config → Except Error σ)

namespace Registry

def register (r : Registry σ) (kind : ClientKind) (make : Config → Except Error σ) : Registry σ :=
  r.insert kind.text make

def make (r : Registry σ) (c : Config) : Except Error σ :=
  match r.get? c.kind.text with
  | some make => make c
  | none =>
      let kind := c.kind.text
      .error (.other s!"unknown client: {kind} (did you enable the '{kind}' feature flag?)")

end Registry

inductive AnyClient where
  | memory (m : Memory)
  | rest (r : Rest)

namespace AnyClient

variable {α : Type}

def either (memory : Action Memory α) (rest : Action Rest α) : Action AnyClient α := do
  match ← Action.client with
  | .memory m => Action.onPart m .memory memory
  | .rest r => Action.onPart r .rest rest

instance : Client AnyClient where
  name
    | .memory m => Client.name m
    | .rest r => Client.name r
  init := either Client.init Client.init
  close := either Client.close Client.close
  listWebApps rg := either (Client.listWebApps rg) (Client.listWebApps rg)
  listSlots rg app := either (Client.listSlots rg app) (Client.listSlots rg app)
  getWebApp rg app := either (Client.getWebApp rg app) (Client.getWebApp rg app)
  getAppSettings site := either (Client.getAppSettings site) (Client.getAppSettings site)
  putAppSettings site properties :=
    either (Client.putAppSettings site properties) (Client.putAppSettings site properties)
  putSticky site names := either (Client.putSticky site names) (Client.putSticky site names)
  getConnections site := either (Client.getConnections site) (Client.getConnections site)
  putConnections site connections :=
    either (Client.putConnections site connections) (Client.putConnections site connections)

end AnyClient

/-- Clients of both kinds; those that talk to the service do so over this network, with the token of this
environment if they have none of their own. -/
def Registry.standard (network : Network) (environment : Option String := none) : Registry AnyClient :=
  let memory : Registry AnyClient := Registry.register .empty .memory fun _ => .ok (.memory {})
  memory.register .rest fun c => .ok (.rest (.ofConfig network c environment))

end WebAppTargets
