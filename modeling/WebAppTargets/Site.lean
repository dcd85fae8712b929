import WebAppTargets.Error
import WebAppTargets.Json.Decode

namespace WebAppTargets

structure Site where
  resourceGroup : String
  webApp : String
  slot : Option String
  deriving DecidableEq

namespace Site

/-- A slot without a name, or of white space only, is the web app itself. -/
def of (resourceGroup webApp : String) (slot : Option String) : Site :=
  ⟨resourceGroup, webApp, slot.filter fun s => !Text.isBlankText s⟩

/-- The web app and slot in a name written `app/slot` or `app(slot)`. -/
def split (name : List Char) : List Char × Option (List Char) :=
  match Text.cut ['/'] name with
  | some (app, slot) => (app, some slot)
  | none =>
      match Text.cut ['('] name with
      | some (app, slot) => (app, some (Text.dropEnd ')' slot))
      | none => (name, none)

/-- A slot named on its own goes before one in the web app's name. -/
def parse (resourceGroup name : String) (slot : Option String) : Site :=
  let (app, embedded) := split name.toList
  let explicit := (slot.map Text.stripped).filter fun s => !s.isEmpty
  of resourceGroup (String.ofList (Text.trim app)) (explicit <|> embedded.map String.ofList)

def check (s : Site) : Except NameFault Unit := do
  Naming.checkResourceGroup s.resourceGroup
  Naming.checkWebApp s.webApp
  match s.slot with
  | some slot => Naming.checkSlot slot
  | none => .ok ()

def validate (s : Site) : Except Error Unit := s.check.mapError .ofName

def text (s : Site) : String :=
  match s.slot with
  | some slot => s!"{s.resourceGroup}/{s.webApp}/{slot}"
  | none => s!"{s.resourceGroup}/{s.webApp}"

section Json

open Json

def fields : List Field :=
  [.mandatory "resourceGroup" [] Decoder.string, .mandatory "site" [] Decoder.string,
   .defaulted "slot" [] (Decoder.option Decoder.string)]

def decode : Decoder Site := fun n => do
  let r ← Decoder.record .text "TargetSite" fields n
  return {
    resourceGroup := ← r.get "resourceGroup" Decoder.string
    webApp := ← r.get "site" Decoder.string
    slot := ← r.getD "slot" (Decoder.option Decoder.string) none }

def json (s : Site) : Value :=
  .ofFields ([("resourceGroup", .string s.resourceGroup), ("site", .string s.webApp)] ++
    (s.slot.map fun slot => ("slot", .string slot)).toList)

end Json

end Site

end WebAppTargets
