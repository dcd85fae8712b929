import WebAppTargets.Discovery.Scope
import WebAppTargets.Resource
import WebAppTargets.ServiceMessage

namespace WebAppTargets

structure Match where
  /-- `app`, or `app/slot` for a slot. -/
  target : String
  slot : Option String
  webApp : String
  resourceGroup : String
  role : String
  deriving DecidableEq

def Match.message (m : Match) : ServiceMessage where
  name := "create-azurewebapptarget"
  attributes :=
    ("name", m.target) :: (m.slot.map fun s => ("azureWebAppSlot", s)).toList ++
      [("azureWebApp", m.webApp), ("azureResourceGroupName", m.resourceGroup),
       ("octopusRoles", m.role), ("updateIfExisting", "True"), ("isDynamic", "True")]

namespace Scope

def environmentTag : String := "octopus-environment"

def roleTag : String := "octopus-role"

def matchingRole (scope : Scope) (tags : Table String) : Option String :=
  if tags.get? environmentTag = some scope.environment then
    (tags.get? roleTag).filter fun r => scope.roles.contains r
  else none

def match? (scope : Scope) (r : Resource) : Option Match :=
  (scope.matchingRole r.tags).map fun role => {
    target := if r.isSlot then s!"{r.siteName}/{r.name}" else r.name
    slot := if r.isSlot then some r.name else none
    webApp := r.siteName
    resourceGroup := r.resourceGroup
    role }

def scan (scope : Scope) (candidates : List Resource) : List Match :=
  candidates.filterMap scope.match?

end Scope

end WebAppTargets
