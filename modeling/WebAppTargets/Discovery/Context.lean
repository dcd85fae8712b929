import WebAppTargets.Account
import WebAppTargets.Discovery.Scope
import WebAppTargets.Text.Lowercase

namespace WebAppTargets

structure Context where
  scope : Scope
  account : Account
  deriving DecidableEq

namespace Context

open Json

def fields (source : Source) : List Field :=
  [.mandatory "scope" [] (Scope.decode source), .mandatory "account" [] (Account.decode source)]

def decode (source : Source) : Decoder Context := fun n => do
  let r ← Decoder.record source "DiscoveryContext" (fields source) n
  return {
    scope := ← r.get "scope" (Scope.decode source)
    account := ← r.get "account" (Account.decode source) }

def json (c : Context) : Value := .ofFields [("scope", c.scope.json), ("account", c.account.json)]

mutual
/-- Lowers all names of members. Of two names that become one the later in name order wins. -/
def lowerKeys : Value → Value
  | .null => .null
  | .bool b => .bool b
  | .number n => .number n
  | .string s => .string s
  | .array items => .array (lowerItems items)
  | .object fields => .ofTable (Table.ofList (lowerFields fields))
def lowerItems : Values → Values
  | .nil => .nil
  | .cons v rest => .cons (lowerKeys v) (lowerItems rest)
def lowerFields : Fields → List (String × Value)
  | .nil => []
  | .cons k v rest => (Text.lowercase k, lowerKeys v) :: lowerFields rest
end

/-- Reads a context, which has to name a role. -/
def parse (text : String) : Except Error Context := do
  let value ← (decodeText (fun n => faulted (n.value maxDepth)) text).mapError .json
  let context ← (decode .tree (lowerKeys value).node).mapError .json
  if context.scope.roles.isEmpty then throw (.invalidContext "scope must name at least one role")
  return context

end Context

end WebAppTargets
