import WebAppTargets.Log
import WebAppTargets.Variables

namespace WebAppTargets

structure Endpoint where
  account : String
  resourceGroup : String
  webApp : String
  /-- Empty when the message has no slot. -/
  slotName : String
  workerPool : Option String
  deriving DecidableEq

namespace Endpoint

def slot (e : Endpoint) : Option String := if e.slotName.isEmpty then none else some e.slotName

def usable (s : Option String) : Option String := s.filter fun s => !Text.isBlankText s

def valueOf (message : Table String) (key : String) : Option String := usable (message.get? key)

def required (message : Table String) (key : String) : Except Error String :=
  match valueOf message key with
  | some s => .ok s
  | none => .error (.missingAttribute key)

inductive Query where
  | account (key : String)
  | pool (key : String)
  deriving DecidableEq

structure Resolver where
  account : String → Option String
  pool : String → Option String

structure Resolution where
  outcome : Except Error Endpoint
  asked : List Query
  log : Log := []
  trace : Trace := []

def ask (lookup : String → Option String) (query : String → Query) (key : Option String) :
    Option String × List Query :=
  match key with
  | some k => (usable (lookup k), [query k])
  | none => (none, [])

/-- The account of the message, then that of the variables, and what was asked for. -/
def findAccount (resolver : Resolver) (message : Table String) (v : Variables) :
    Option String × List Query :=
  let first := ask resolver.account .account (valueOf message "octopusAccountIdOrName")
  match first.1 with
  | some a => (some a, first.2)
  | none =>
      let second := ask resolver.account .account (v.get? Variable.account)
      (second.1, first.2 ++ second.2)

def findPool (resolver : Resolver) (message : Table String) (v : Variables) :
    Option String × List Query :=
  let first := ask resolver.pool .pool (valueOf message "octopusDefaultWorkerPoolIdOrName")
  (first.1 <|> v.nonBlank? Variable.workerPool, first.2)

def assemble (message : Table String) (account : String) (pool : Option String) :
    Except Error Endpoint := do
  let resourceGroup ← required message "azureResourceGroupName"
  let webApp ← required message "azureWebApp"
  return {
    account, resourceGroup, webApp
    slotName := (message.get? "azureWebAppSlot").getD ""
    workerPool := pool }

def resolve (resolver : Resolver) (message : Table String) (v : Variables) : Resolution :=
  match findAccount resolver message v with
  | (none, asked) =>
      let e := Error.accountNotFound (v.getD Variable.account)
      { outcome := .error e, asked
        log := [.line .error e.message]
        trace := [⟨.error, e.message, [("variable", Variable.account)]⟩] }
  | (some account, asked) =>
      let (pool, askedPool) := findPool resolver message v
      let asked := asked ++ askedPool
      match assemble message account pool with
      | .error e => { outcome := .error e, asked }
      | .ok endpoint =>
          { outcome := .ok endpoint, asked
            trace := [⟨.debug, "resolved web app endpoint",
              [("web_app", endpoint.webApp), ("resource_group", endpoint.resourceGroup),
               ("account", endpoint.account)]⟩] }

def targetType : String := "AzureWebApp"

def ensureWebApp (type name : Option String) : Except Error Unit :=
  match type with
  | some t =>
      if t = targetType then .ok ()
      else
        let name := name.getD "<unknown>"
        .error (.other s!"The machine {name} will not be deployed to because it is not an Azure Web Application deployment target")
  | none => .ok ()

open Json

def fields : List Field :=
  [.mandatory "accountId" [] Decoder.string, .mandatory "resourceGroupName" [] Decoder.string,
   .mandatory "webAppName" [] Decoder.string, .mandatory "webAppSlotName" [] Decoder.string,
   .defaulted "defaultWorkerPoolId" [] (Decoder.option Decoder.string)]

def decode : Decoder Endpoint := fun n => do
  let r ← Decoder.record .text "AzureWebAppEndpoint" fields n
  return {
    account := ← r.get "accountId" Decoder.string
    resourceGroup := ← r.get "resourceGroupName" Decoder.string
    webApp := ← r.get "webAppName" Decoder.string
    slotName := ← r.get "webAppSlotName" Decoder.string
    workerPool := ← r.getD "defaultWorkerPoolId" (Decoder.option Decoder.string) none }

def json (e : Endpoint) : Value :=
  .ofFields ([("accountId", .string e.account), ("resourceGroupName", .string e.resourceGroup),
      ("webAppName", .string e.webApp), ("webAppSlotName", .string e.slotName)] ++
    (e.workerPool.map fun p => ("defaultWorkerPoolId", .string p)).toList)

end Endpoint

end WebAppTargets
