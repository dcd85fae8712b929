import WebAppTargets.Resource
import WebAppTargets.Setting

namespace WebAppTargets

open Json

variable {α : Type}

namespace Timestamp

def ofService? (s : String) : Option Instant := strict? s.toList <|> local? s.toList

end Timestamp

structure ListedSite where
  name : String
  tags : Table String
  plan : Option String
  lastModified : Option Instant
  deriving DecidableEq

namespace ListedSite

abbrev text : Decoder (Option String) := Decoder.option Decoder.string

abbrev tags? : Decoder (Option (Table String)) := Decoder.option (Decoder.table Decoder.string)

def details : Decoder (Option String × Option String) := fun n => do
  let r ← Decoder.record .text "SiteProperties"
    [.defaulted "serverFarmId" [] text, .defaulted "lastModifiedTimeUtc" [] text] n
  return (← r.getD "serverFarmId" text none, ← r.getD "lastModifiedTimeUtc" text none)

def decode : Decoder ListedSite := fun n => do
  let r ← Decoder.record .text "Site"
    [.defaulted "name" [] Decoder.string, .defaulted "tags" [] tags?,
     .defaulted "properties" [] (Decoder.option details)] n
  let properties ← r.getD "properties" (Decoder.option details) none
  let tags ← r.getD "tags" tags? none
  return {
    name := ← r.getD "name" Decoder.string ""
    tags := tags.getD .empty
    plan := properties.bind Prod.fst
    lastModified := (properties.bind Prod.snd).bind Timestamp.ofService? }

variable (s : ListedSite)

def webApp (resourceGroup : String) : Resource where
  name := s.name
  resourceGroup
  tags := s.tags
  plan := s.plan
  lastModified := s.lastModified

def slot (resourceGroup app : String) : Resource where
  name := String.ofList (Text.afterLast '/' s.name.toList)
  resourceGroup
  tags := s.tags
  isSlot := true
  parent := some app
  plan := s.plan
  lastModified := s.lastModified

end ListedSite

structure Page where
  sites : List ListedSite
  next : Option String

namespace Page

def decode : Decoder Page := fun n => do
  let r ← Decoder.record .text "Page"
    [.defaulted "value" [] (Decoder.list ListedSite.decode),
     .defaulted "nextLink" [] (Decoder.option Decoder.string)] n
  let next ← r.getD "nextLink" (Decoder.option Decoder.string) none
  return {
    sites := ← r.getD "value" (Decoder.list ListedSite.decode) []
    next := next.filter fun link => !link.isEmpty }

end Page

/-- An object with `properties`, which are empty when they are missing. -/
def properties (d : Decoder (Table α)) : Decoder (Table α) := fun n => do
  let r ← Decoder.record .text "Properties" [.defaulted "properties" [] d] n
  r.getD "properties" d .empty

namespace AppSettings

def decode : Decoder (Table String) := properties (Decoder.table Decoder.string)

def json (t : Table String) : Value :=
  .ofFields [("properties", .ofFields (t.entries.map fun e => (e.1, .string e.2)))]

end AppSettings

namespace ConnectionStrings

def decode : Decoder (Table ConnectionString) :=
  properties (Decoder.table ConnectionString.decode)

def json (t : Table ConnectionString) : Value :=
  .ofFields [("properties", .ofFields (t.entries.map fun e => (e.1, e.2.json)))]

end ConnectionStrings

/-- The names that stay with a slot, among whatever else the service keeps beside them. -/
structure SlotConfiguration where
  members : Table Value
  deriving DecidableEq

namespace SlotConfiguration

def namesKey : String := "appSettingNames"

def decode : Decoder SlotConfiguration := fun n => do
  return ⟨← properties (Decoder.object 1) n⟩

def json (c : SlotConfiguration) : Value := .ofFields [("properties", .ofTable c.members)]

def string? : Value → Option String
  | .string s => some s
  | _ => none

/-- Items that are no strings are passed over. -/
def names (c : SlotConfiguration) : List String :=
  match c.members.get? namesKey with
  | some (.array items) => items.toList.filterMap string?
  | _ => []

def withNames (c : SlotConfiguration) (names : NameSet) : SlotConfiguration :=
  ⟨c.members.insert namesKey (.ofItems (names.toList.map .string))⟩

end SlotConfiguration

end WebAppTargets
