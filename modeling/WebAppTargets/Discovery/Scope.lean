import WebAppTargets.Json.Decode

namespace WebAppTargets

structure Scope where
  space : String
  environment : String
  project : String
  tenant : Option String
  roles : NameSet
  deriving DecidableEq

namespace Scope

open Json

def fields : List Field :=
  [.mandatory "spaceId" ["spaceid"] Decoder.string,
   .mandatory "environmentId" ["environmentid"] Decoder.string,
   .mandatory "projectId" ["projectid"] Decoder.string,
   .defaulted "tenantId" ["tenantid"] (Decoder.option Decoder.string),
   .mandatory "roles" [] Decoder.names]

def decode (source : Source) : Decoder Scope := fun n => do
  let r ← Decoder.record source "DiscoveryScope" fields n
  return {
    space := ← r.get "spaceId" Decoder.string
    environment := ← r.get "environmentId" Decoder.string
    project := ← r.get "projectId" Decoder.string
    tenant := ← r.getD "tenantId" (Decoder.option Decoder.string) none
    roles := ← r.get "roles" Decoder.names }

def json (s : Scope) : Value :=
  .ofFields [("spaceId", .string s.space), ("environmentId", .string s.environment),
    ("projectId", .string s.project), ("tenantId", .ofOption s.tenant),
    ("roles", .ofItems (s.roles.toList.map .string))]

end Scope

end WebAppTargets
