import WebAppTargets.Error
import WebAppTargets.Json.Decode

namespace WebAppTargets

abbrev Variables := Table String

namespace Variables

def nonBlank? (v : Variables) (name : String) : Option String :=
  (v.get? name).filter fun s => !Text.isBlankText s

def IsBlank (v : Variables) (name : String) : Prop := ∀ s ∈ v.get? name, Text.isBlankText s

theorem nonBlank?_eq_none_iff {v : Variables} {name : String} :
    v.nonBlank? name = none ↔ v.IsBlank name := by
  simp [nonBlank?, IsBlank, Option.filter_eq_none_iff]

def getD (v : Variables) (name : String) : String := (v.get? name).getD ""

def decode : Json.Decoder Variables := Json.Decoder.table Json.Decoder.string

def json (v : Variables) : Json.Value := .ofFields (v.entries.map fun e => (e.1, .string e.2))

def load (octets : List UInt8) : Except Error Variables :=
  (Json.decodeLetters decode (Utf8.letters 0 octets)).mapError .json

end Variables

namespace Variable

def discoveryContext := "Octopus.TargetDiscovery.Context"
def resourceGroup := "Octopus.Action.Azure.ResourceGroupName"
def webApp := "Octopus.Action.Azure.WebAppName"
def slot := "Octopus.Action.Azure.DeploymentSlot"
def appSettings := "Octopus.Action.Azure.AppSettings"
def connectionStrings := "Octopus.Action.Azure.ConnectionStrings"
def account := "Octopus.Action.Azure.AccountId"
def workerPool := "Octopus.WorkerPool.Id"
def subscription := "Octopus.Action.Azure.SubscriptionId"
def client := "Octopus.Action.Azure.ClientId"
def tenant := "Octopus.Action.Azure.TenantId"
def password := "Octopus.Action.Azure.Password"
def environment := "Octopus.Action.Azure.Environment"
def managementEndpoint := "Octopus.Action.Azure.ResourceManagementEndPoint"
def directoryEndpoint := "Octopus.Action.Azure.ActiveDirectoryEndPoint"
def servicePlan := "Octopus.Action.Azure.AppServicePlanId"

end Variable

end WebAppTargets
