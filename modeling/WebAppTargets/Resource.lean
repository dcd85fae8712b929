import WebAppTargets.Site
import WebAppTargets.Time.Timestamp

namespace WebAppTargets

structure Resource where
  name : String
  resourceGroup : String
  tags : Table String := .empty
  isSlot : Bool := false
  parent : Option String := none
  plan : Option String := none
  lastModified : Option Instant := none
  deriving DecidableEq

namespace Resource

def webApp (name resourceGroup : String) : Resource := { name, resourceGroup }

def slot (parent name resourceGroup : String) : Resource :=
  { name, resourceGroup, isSlot := true, parent := some parent }

def siteName (r : Resource) : String := r.parent.getD r.name

def site (r : Resource) : Site :=
  if r.isSlot then Site.of r.resourceGroup r.siteName (some r.name)
  else Site.of r.resourceGroup r.name none

section Json

open Json

def decodeInstant : Decoder Instant := fun n => do
  let s ← Decoder.described "an RFC 3339 formatted date and time string" n
  (Timestamp.lenient s.toList).mapError fun f => .refused f.message

def fields : List Field :=
  [.mandatory "name" [] Decoder.string, .mandatory "resourceGroup" [] Decoder.string,
   .defaulted "tags" [] (Decoder.table Decoder.string), .defaulted "isSlot" [] Decoder.bool,
   .defaulted "parentName" [] (Decoder.option Decoder.string),
   .defaulted "serverFarmId" [] (Decoder.option Decoder.string),
   .defaulted "lastModified" [] (Decoder.option decodeInstant)]

def decode : Decoder Resource := fun n => do
  let r ← Decoder.record .text "WebAppResource" fields n
  return {
    name := ← r.get "name" Decoder.string
    resourceGroup := ← r.get "resourceGroup" Decoder.string
    tags := ← r.getD "tags" (Decoder.table Decoder.string) .empty
    isSlot := ← r.getD "isSlot" Decoder.bool false
    parent := ← r.getD "parentName" (Decoder.option Decoder.string) none
    plan := ← r.getD "serverFarmId" (Decoder.option Decoder.string) none
    lastModified := ← r.getD "lastModified" (Decoder.option decodeInstant) none }

def json (r : Resource) : Value :=
  .ofFields ([("name", .string r.name), ("resourceGroup", .string r.resourceGroup),
      ("tags", .ofFields (r.tags.entries.map fun e => (e.1, .string e.2))),
      ("isSlot", .bool r.isSlot)] ++
    (r.parent.map fun p => ("parentName", .string p)).toList ++
    (r.plan.map fun p => ("serverFarmId", .string p)).toList ++
    (r.lastModified.map fun t => ("lastModified", .string t.text)).toList)

end Json

end Resource

end WebAppTargets
