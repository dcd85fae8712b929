import WebAppTargets.Error
import WebAppTargets.Json.Decode

namespace WebAppTargets

structure AppSetting where
  name : String
  value : String
  isSticky : Bool
  deriving DecidableEq

inductive ConnectionKind where
  | mySql | sqlServer | sqlAzure | custom | notificationHub | serviceBus | eventHub | apiHub | docDb
  | redisCache | postgreSql
  deriving DecidableEq

namespace ConnectionKind

def all : List ConnectionKind :=
  [.mySql, .sqlServer, .sqlAzure, .custom, .notificationHub, .serviceBus, .eventHub, .apiHub, .docDb,
   .redisCache, .postgreSql]

def text : ConnectionKind → String
  | .mySql => "MySql"
  | .sqlServer => "SQLServer"
  | .sqlAzure => "SQLAzure"
  | .custom => "Custom"
  | .notificationHub => "NotificationHub"
  | .serviceBus => "ServiceBus"
  | .eventHub => "EventHub"
  | .apiHub => "ApiHub"
  | .docDb => "DocDb"
  | .redisCache => "RedisCache"
  | .postgreSql => "PostgreSQL"

def ofText? (s : String) : Option ConnectionKind := all.find? (·.text == s)

end ConnectionKind

structure ConnectionString where
  value : String
  kind : ConnectionKind
  deriving DecidableEq

structure ConnectionSetting where
  name : String
  value : String
  kind : ConnectionKind
  deriving DecidableEq

open Json

/-- The names of a member as it is written now and as it may be written. -/
abbrev nameField : Field := .mandatory "name" ["Name"] Decoder.string

abbrev valueField : Field := .defaulted "value" ["Value"] Decoder.string

namespace AppSetting

def fields : List Field :=
  [nameField, valueField, .defaulted "slotSetting" ["SlotSetting"] Decoder.bool]

def decode : Decoder AppSetting := fun n => do
  let r ← Decoder.record .text "AppSetting" fields n
  return {
    name := ← r.get "name" Decoder.string
    value := ← r.getD "value" Decoder.string ""
    isSticky := ← r.getD "slotSetting" Decoder.bool false }

def json (s : AppSetting) : Value :=
  .ofFields [("name", .string s.name), ("value", .string s.value), ("slotSetting", .bool s.isSticky)]

end AppSetting

namespace ConnectionKind

def decode : Decoder ConnectionKind := fun n => do
  let s ← Decoder.variant (all.map text) n
  match ofText? s with
  | some k => return k
  | none => throw (.variant s (all.map text))

def json (k : ConnectionKind) : Value := .string k.text

end ConnectionKind

namespace ConnectionSetting

def fields : List Field :=
  [nameField, valueField, .defaulted "type" ["Type"] ConnectionKind.decode]

def decode : Decoder ConnectionSetting := fun n => do
  let r ← Decoder.record .text "ConnectionStringSetting" fields n
  return {
    name := ← r.get "name" Decoder.string
    value := ← r.getD "value" Decoder.string ""
    kind := ← r.getD "type" ConnectionKind.decode .custom }

def json (s : ConnectionSetting) : Value :=
  .ofFields [("name", .string s.name), ("value", .string s.value), ("type", s.kind.json)]

end ConnectionSetting

namespace ConnectionString

def fields : List Field :=
  [.mandatory "value" [] Decoder.string, .defaulted "type" [] ConnectionKind.decode]

def decode : Decoder ConnectionString := fun n => do
  let r ← Decoder.record .text "ConnectionStringValue" fields n
  return {
    value := ← r.get "value" Decoder.string
    kind := ← r.getD "type" ConnectionKind.decode .custom }

def json (s : ConnectionString) : Value :=
  .ofFields [("value", .string s.value), ("type", s.kind.json)]

end ConnectionString

end WebAppTargets
