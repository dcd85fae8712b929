import WebAppTargets.Json.Error

namespace WebAppTargets.Json

mutual
/-- What is read of a text: a tree whose last place is where the text goes wrong. Whoever walks it
from the left meets the fault, or a value of a wrong kind before it. -/
inductive Node where
  | null
  | bool (b : Bool)
  /-- A numeral; `none` when its number is too large. -/
  | number (n : Option Number)
  /-- A string; `none` when it has half of a surrogate pair or an octet outside of any character. -/
  | string (s : Option String)
  | array (items : Items)
  | object (members : Members)
  | absent (f : Fault)
  /-- A string that does not end, with the first fault when it is kept and when it is skipped. -/
  | cutString (kept skipped : Fault)
  | cutWord (kept skipped : Fault)
inductive Items where
  | closed
  | cut (f : Fault)
  | item (v : Node) (rest : Items)
/-- The key of a member is a node too, since anything may stand there in a faulty text. -/
inductive Members where
  | closed
  | cut (f : Fault)
  | member (key v : Node) (rest : Members)
end

instance : Inhabited Node := ⟨.null⟩

def Node.key : Node → Except Fault String
  | .string (some s) => .ok s
  | .cutString kept _ => .error kept
  | .absent f => .error f
  | _ => .error .malformed

def Node.skipKey : Node → Except Fault Unit
  | .string _ => .ok ()
  | .cutString _ skipped => .error skipped
  | .absent f => .error f
  | _ => .error .malformed

mutual
def Node.skip : Node → Except Fault Unit
  | .null => .ok ()
  | .bool _ => .ok ()
  | .number _ => .ok ()
  | .string _ => .ok ()
  | .array items => items.skip
  | .object members => members.skip
  | .absent f => .error f
  | .cutString _ skipped => .error skipped
  | .cutWord _ skipped => .error skipped
def Items.skip : Items → Except Fault Unit
  | .closed => .ok ()
  | .cut f => .error f
  | .item v rest => do v.skip; rest.skip
def Members.skip : Members → Except Fault Unit
  | .closed => .ok ()
  | .cut f => .error f
  | .member k v rest => do k.skipKey; v.skip; rest.skip
end

mutual
/-- The value, with at most `depth` containers inside each other. -/
def Node.value (depth : Nat) : Node → Except Fault Value
  | .null => .ok .null
  | .bool b => .ok (.bool b)
  | .number (some n) => .ok (.number n)
  | .number none => .error .malformed
  | .string (some s) => .ok (.string s)
  | .string none => .error .malformed
  | .array items =>
      match depth with
      | 0 => .error .malformed
      | d + 1 => do return Value.ofItems (← items.values d)
  | .object members =>
      match depth with
      | 0 => .error .malformed
      | d + 1 => do return Value.ofTable (Table.ofList (← members.fields d))
  | .absent f => .error f
  | .cutString kept _ => .error kept
  | .cutWord kept _ => .error kept
def Items.values (depth : Nat) : Items → Except Fault (List Value)
  | .closed => .ok []
  | .cut f => .error f
  | .item v rest => do
      let w ← v.value depth
      return w :: (← rest.values depth)
def Members.fields (depth : Nat) : Members → Except Fault (List (String × Value))
  | .closed => .ok []
  | .cut f => .error f
  | .member k v rest => do
      let name ← k.key
      let w ← v.value depth
      return (name, w) :: (← rest.fields depth)
end

mutual
def Value.node : Value → Node
  | .null => .null
  | .bool b => .bool b
  | .number n => .number (some n)
  | .string s => .string (some s)
  | .array items => .array items.node
  | .object fields => .object fields.node
def Values.node : Values → Items
  | .nil => .closed
  | .cons v rest => .item v.node rest.node
def Fields.node : Fields → Members
  | .nil => .closed
  | .cons k v rest => .member (.string (some k)) v.node rest.node
end

def maxDepth : Nat := 127

end WebAppTargets.Json
