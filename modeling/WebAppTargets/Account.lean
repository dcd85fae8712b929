import WebAppTargets.Json.Decode
import WebAppTargets.Text.Blank
import WebAppTargets.Trace
import WebAppTargets.Variables

namespace WebAppTargets

inductive Cloud where
  | worldwide
  | china
  | usGovernment
  | germany
  deriving DecidableEq

namespace Cloud

def named? (name : String) : Option Cloud :=
  match name with
  | "" | "AzureGlobalCloud" | "AzureCloud" => some .worldwide
  | "AzureChinaCloud" => some .china
  | "AzureUSGovernment" => some .usGovernment
  | "AzureGermanCloud" => some .germany
  | _ => none

/-- The cloud of an environment name; an unknown name is taken for the public cloud. -/
def ofName (name : String) : Cloud := (named? (Text.stripped name)).getD .worldwide

def notices (name : String) : Trace :=
  match named? (Text.stripped name) with
  | some _ => []
  | none =>
      [⟨.warn, "unknown Azure environment, using AzureGlobalCloud",
        [("environment", Text.stripped name)]⟩]

def text : Cloud → String
  | .worldwide => "AzureGlobalCloud"
  | .china => "AzureChinaCloud"
  | .usGovernment => "AzureUSGovernment"
  | .germany => "AzureGermanCloud"

def managementEndpoint : Cloud → String
  | .worldwide => "https://management.azure.com/"
  | .china => "https://management.chinacloudapi.cn/"
  | .usGovernment => "https://management.usgovcloudapi.net/"
  | .germany => "https://management.microsoftazure.de/"

def directoryEndpoint : Cloud → String
  | .worldwide => "https://login.microsoftonline.com/"
  | .china => "https://login.chinacloudapi.cn/"
  | .usGovernment => "https://login.microsoftonline.us/"
  | .germany => "https://login.microsoftonline.de/"

end Cloud

structure Account where
  subscription : String := ""
  client : String := ""
  tenant : String := ""
  password : String := ""
  environment : String := ""
  managementOverride : String := ""
  directoryOverride : String := ""
  deriving DecidableEq

namespace Account

def ofVariables (v : Variables) : Account where
  subscription := v.getD Variable.subscription
  client := v.getD Variable.client
  tenant := v.getD Variable.tenant
  password := v.getD Variable.password
  environment := v.getD Variable.environment
  managementOverride := v.getD Variable.managementEndpoint
  directoryOverride := v.getD Variable.directoryEndpoint

variable (a : Account)

def cloud : Cloud := Cloud.ofName a.environment

def orDefault (own default : String) : String :=
  if Text.isBlankText own then default else Text.stripped own

def managementEndpoint : String := orDefault a.managementOverride a.cloud.managementEndpoint

def directoryEndpoint : String := orDefault a.directoryOverride a.cloud.directoryEndpoint

/-- The warnings that come with asking for an endpoint: the cloud is looked up only without an
override. -/
def endpointNotices (own : String) : Trace :=
  if Text.isBlankText own then Cloud.notices a.environment else []

def hasSubscription : Bool := !Text.isBlankText a.subscription

def summary : String :=
  let field (name value : String) := s!"{name}: {Text.quoted value}"
  let fields := [field "subscription_number" a.subscription, field "client_id" a.client,
    field "tenant_id" a.tenant, field "password" "<redacted>",
    field "azure_environment" a.environment,
    field "resource_management_endpoint_base_uri" a.managementOverride,
    field "active_directory_endpoint_base_uri" a.directoryOverride]
  "AccountCredentials \x7b " ++ ", ".intercalate fields ++ " \x7d"

open Json

def fields : List Field :=
  [.defaulted "subscriptionNumber" ["SubscriptionNumber", "subscriptionnumber"] Decoder.string,
   .defaulted "clientId" ["ClientId", "clientid"] Decoder.string,
   .defaulted "tenantId" ["TenantId", "tenantid"] Decoder.string,
   .defaulted "password" ["Password"] Decoder.string,
   .defaulted "azureEnvironment" ["AzureEnvironment", "azureenvironment"] Decoder.string,
   .defaulted "resourceManagementEndpointBaseUri"
     ["ResourceManagementEndpointBaseUri", "resourcemanagementendpointbaseuri"] Decoder.string,
   .defaulted "activeDirectoryEndpointBaseUri"
     ["ActiveDirectoryEndpointBaseUri", "activedirectoryendpointbaseuri"] Decoder.string]

def decode (source : Source) : Decoder Account := fun n => do
  let r ← Decoder.record source "AccountCredentials" fields n
  let get (name : String) := r.getD name Decoder.string ""
  return {
    subscription := ← get "subscriptionNumber"
    client := ← get "clientId"
    tenant := ← get "tenantId"
    password := ← get "password"
    environment := ← get "azureEnvironment"
    managementOverride := ← get "resourceManagementEndpointBaseUri"
    directoryOverride := ← get "activeDirectoryEndpointBaseUri" }

def json : Value :=
  .ofFields [("subscriptionNumber", .string a.subscription), ("clientId", .string a.client),
    ("tenantId", .string a.tenant), ("password", .string a.password),
    ("azureEnvironment", .string a.environment),
    ("resourceManagementEndpointBaseUri", .string a.managementOverride),
    ("activeDirectoryEndpointBaseUri", .string a.directoryOverride)]

end Account

end WebAppTargets
