import WebAppTargets.Json.Value

namespace WebAppTargets.Json

namespace Writer

def escape (c : Char) : List Char :=
  if c = '"' || c = '\\' then ['\\', c]
  else if c.toNat = 8 then ['\\', 'b']
  else if c.toNat = 12 then ['\\', 'f']
  else if c = '\n' then ['\\', 'n']
  else if c = '\r' then ['\\', 'r']
  else if c = '\t' then ['\\', 't']
  else if c.toNat < 0x20 then
    ['\\', 'u', '0', '0', Nat.digitChar (c.toNat / 16), Nat.digitChar (c.toNat % 16)]
  else [c]

def string (s : String) : List Char := '"' :: s.toList.flatMap escape ++ ['"']

mutual
def value : Value → List Char
  | .null => "null".toList
  | .bool b => (if b then "true" else "false").toList
  | .number n => n.text.toList
  | .string s => string s
  | .array .nil => ['[', ']']
  | .array (.cons v rest) => '[' :: value v ++ values rest
  | .object .nil => ['\x7b', '\x7d']
  | .object (.cons k v rest) => '\x7b' :: string k ++ ':' :: value v ++ fields rest
/-- The further items and the closing bracket. -/
def values : Values → List Char
  | .nil => [']']
  | .cons v rest => ',' :: value v ++ values rest
/-- The further members and the closing brace. -/
def fields : Fields → List Char
  | .nil => ['\x7d']
  | .cons k v rest => ',' :: string k ++ ':' :: value v ++ fields rest
end

end Writer

def Value.text (v : Value) : String := String.ofList (Writer.value v)

end WebAppTargets.Json
