import WebAppTargets.Text.Hex
import WebAppTargets.Text.Split

namespace WebAppTargets.Url.Ipv4

def number? : List Char → Option Nat
  | [] => none
  | '0' :: 'x' :: r | '0' :: 'X' :: r => Text.numeral? 16 r
  | '0' :: c :: r => Text.numeral? 8 (c :: r)
  | s => Text.numeral? 10 s

/-- The parts between dots. A dot at the end parts nothing. -/
def parts (s : List Char) : List (List Char) :=
  let all := Text.pieces (· == '.') s
  if 1 < all.length && all.getLast? == some [] then all.dropLast else all

/-- Hosts that end in a number have to be addresses. -/
def endsInNumber (s : List Char) : Bool :=
  match (parts s).getLast? with
  | none | some [] => false
  | some p => p.all Char.isDigit || (number? p).isSome

def parse? (s : List Char) : Option Nat := do
  let numbers ← (parts s).mapM number?
  if 4 < numbers.length then none
  else
    let last ← numbers.getLast?
    let octets := numbers.dropLast
    if Nat.pow 256 (4 - octets.length) ≤ last || octets.any (255 < ·) then none
    else some ((octets ++ List.replicate (4 - octets.length) 0).foldl (· * 256 + ·) 0 + last)

def text (a : Nat) : List Char :=
  ['.'].intercalate ([16777216, 65536, 256, 1].map fun n => Nat.toDigits 10 (a / n % 256))

end WebAppTargets.Url.Ipv4
