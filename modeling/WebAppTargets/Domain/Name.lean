import WebAppTargets.Domain.Direction
import WebAppTargets.Domain.Joining
import WebAppTargets.Domain.Mapping
import WebAppTargets.Domain.Punycode
import WebAppTargets.Text.Composed
import WebAppTargets.Text.Split

namespace WebAppTargets.Domain

structure Label where
  read : List Char
  written : List Char

namespace Label

def mark : List Char := "xn--".toList

def maxRead : Nat := 1000

def maxWritten : Nat := 2000

def isAscii (s : List Char) : Bool := s.all (·.toNat < 0x80)

def isReadable (s : List Char) : Bool :=
  !s.head?.any isMark && hasJoinersInPlace [] s && s.length ≤ maxRead

def ofCode? (code : List Char) : Option Label := do
  if !isAscii code || code.isEmpty || code.getLast? == some '-' || maxWritten < code.length then
    none
  else
    let read ← Punycode.decode code
    if read.all isPlain && Text.composed read == read && isReadable read then
      some ⟨read, mark ++ code⟩
    else none

def of? (s : List Char) : Option Label :=
  match Text.dropStart? mark s with
  | some code => ofCode? code
  | none =>
      if isAscii s then some ⟨s, s⟩
      else if isReadable s then some ⟨s, mark ++ Punycode.encode s⟩
      else none

end Label

def isDenied (c : Char) : Bool :=
  c.toNat ≤ 0x20 || c.toNat == 0x7F ||
    ['%', '#', '/', ':', '<', '>', '?', '@', '[', '\\', ']', '^', '|'].contains c

def labels? (s : List Char) : Option (List Label) := do
  let images ← images? s
  let name := Text.composed images
  if name.any isDenied then none else (Text.pieces (· == '.') name).mapM Label.of?

def runsOneWay (labels : List Label) : Bool :=
  let directions := labels.map fun l => l.read.map Direction.of
  !directions.any (·.any Direction.isLeftward) || directions.all Direction.agree

/-- The name in ASCII. Labels are the parts between dots, read as small letters in composed form;
one with other than ASCII characters is written in Punycode after `xn--`, and one that is written so
has to be what its reading would be written as. -/
def name? (s : List Char) : Option (List Char) := do
  let labels ← labels? s
  if runsOneWay labels then some (['.'].intercalate (labels.map Label.written)) else none

end WebAppTargets.Domain
