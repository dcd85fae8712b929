import WebAppTargets.Error
import WebAppTargets.Json.Decode

namespace WebAppTargets.Template

def provider : String := "AzureAppService"

def format : String := "JSON"

def canHandle (providerId templateFormat : String) : Bool :=
  providerId == provider && templateFormat == format

def hasSubstitution (template : String) : Bool :=
  (Text.cut ['#', '\x7b'] template.toList).isSome

def validate (template : String) : Except Error Unit :=
  if hasSubstitution template then .ok ()
  else
    match Json.decodeText (Json.Decoder.object 0) template with
    | .ok _ => .ok ()
    | .error e => .error (.json e)

end WebAppTargets.Template
