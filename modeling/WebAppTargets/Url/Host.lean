import WebAppTargets.Domain.Name
import WebAppTargets.Url.Encoding
import WebAppTargets.Url.Ipv4
import WebAppTargets.Url.Ipv6

namespace WebAppTargets.Url

inductive Host where
  | name (name : List Char)
  | ipv4 (address : Nat)
  | ipv6 (groups : List Nat)
  deriving DecidableEq

namespace Host

def text : Host → List Char
  | .name n => n
  | .ipv4 a => Ipv4.text a
  | .ipv6 g => '[' :: Ipv6.text g ++ [']']

/-- An address in brackets, or what `other` makes of a text without a bracket in front. -/
def bracketed? (other : List Char → Option Host) : List Char → Option Host
  | '[' :: r =>
      if r.getLast? = some ']' then (Ipv6.parse? r.dropLast).map .ipv6 else none
  | s => other s

def ofName? (s : List Char) : Option Host := do
  let text ← (Utf8.decode (Percent.decode s)).toOption
  let name ← Domain.name? text.toList
  if name.isEmpty then none
  else if Ipv4.endsInNumber name then (Ipv4.parse? name).map .ipv4
  else some (.name name)

def parse? : List Char → Option Host := bracketed? ofName?

def isForbidden (c : Char) : Bool :=
  c == '\x00' || c.isWhitespace ||
    ['#', '/', ':', '<', '>', '?', '@', '[', '\\', ']', '^', '|'].contains c

def parseForeign? : List Char → Option Host :=
  bracketed? fun s => if s.any isForbidden then none else some (.name (Percent.encode isControl s))

end Host

end WebAppTargets.Url
