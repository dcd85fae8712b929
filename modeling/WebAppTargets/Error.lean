import WebAppTargets.Json.Error
import WebAppTargets.Naming
import WebAppTargets.Text.Base64

namespace WebAppTargets

inductive Error where
  | notFound (what : String)
  | siteNotFound (webApp resourceGroup subscription : String)
  | accountNotFound (account : String)
  | missingAttribute (key : String)
  | required (what : String)
  | notAuthenticated
  | invalidName (reason : String)
  | invalidContext (reason : String)
  | http (status : Nat) (body : String)
  | operation (client operation site : String) (cause : Error)
  | io
  | json (e : Json.Error)
  | base64 (f : Base64.Fault)
  | other (reason : String)
  deriving DecidableEq, Inhabited

namespace Error

def message : Error → String
  | .notFound what => s!"not found: {what}"
  | .siteNotFound app rg sub =>
      s!"Could not find site {app} in resource group {rg}, using Service Principal with subscription {sub}"
  | .accountNotFound a => s!"Account with Id / Name, {a}, not found."
  | .missingAttribute k => s!"missing required attribute: {k}"
  | .required what => s!"{what} must be specified"
  | .notAuthenticated => "not authenticated"
  | .invalidName reason => s!"invalid name: {reason}"
  | .invalidContext reason => s!"invalid target discovery context: {reason}"
  | .http status body => s!"HTTP {status}: {body}"
  | .operation client op site cause => s!"{client}: {op} {site}: {cause.message}"
  | .io => "I/O error"
  | .json e => s!"JSON error: {e.message}"
  | .base64 f => s!"base64 decode error: {f.message}"
  | .other reason => reason

def causes : Error → List Error
  | .operation _ _ _ cause => cause :: cause.causes
  | _ => []

def ofStatus (status : Nat) (body : String) : Error :=
  if status = 401 || status = 403 then .notAuthenticated
  else if status = 404 then .notFound body
  else .http status body

def ofName (f : NameFault) : Error := .invalidName f.message

end Error

end WebAppTargets
