namespace WebAppTargets.Base64

inductive Fault where
  | symbol (octet : UInt8) (index : Nat)
  | length (index : Nat)
  | lastSymbol (octet : UInt8) (index : Nat)
  | padding
  deriving DecidableEq

def Fault.message : Fault → String
  | .symbol b i => s!"Invalid symbol {b.toNat}, offset {i}."
  | .length n => s!"Invalid input length: {n}"
  | .lastSymbol b i => s!"Invalid last symbol {b.toNat}, offset {i}."
  | .padding => "Invalid padding"

def symbol (n : Nat) : Char :=
  if n < 26 then Char.ofNat (n + 65)
  else if n < 52 then Char.ofNat (n + 71)
  else if n < 62 then Char.ofNat (n - 4)
  else if n = 62 then '+' else '/'

def pad : UInt8 := 61

def bits? (b : UInt8) : Option Nat :=
  let n := b.toNat
  if 65 ≤ n && n ≤ 90 then some (n - 65)
  else if 97 ≤ n && n ≤ 122 then some (n - 71)
  else if 48 ≤ n && n ≤ 57 then some (n + 4)
  else if n = 43 then some 62
  else if n = 47 then some 63
  else none

def encode : List UInt8 → List Char
  | a :: b :: c :: r =>
      let n := a.toNat * 65536 + b.toNat * 256 + c.toNat
      symbol (n / 262144) :: symbol (n / 4096 % 64) :: symbol (n / 64 % 64) :: symbol (n % 64) ::
        encode r
  | [a, b] =>
      let n := a.toNat * 1024 + b.toNat * 4
      [symbol (n / 4096), symbol (n / 64 % 64), symbol (n % 64), '=']
  | [a] => [symbol (a.toNat / 4), symbol (a.toNat % 4 * 16), '=', '=']
  | [] => []

/-- The bits of consecutive symbols; the first one stands at position `i`. -/
def values (i : Nat) : List UInt8 → Except Fault (List Nat)
  | [] => .ok []
  | b :: r =>
      match bits? b with
      | none => .error (.symbol b i)
      | some n => (values (i + 1) r).map (n :: ·)

/-- The octets that the symbols of one group hold; bits beyond the last full octet are left over. -/
def octets : List Nat → List UInt8
  | [a, b, c, d] => [UInt8.ofNat (a * 4 + b / 16), UInt8.ofNat (b * 16 + c / 4), UInt8.ofNat (c * 64 + d)]
  | [a, b, c] => [UInt8.ofNat (a * 4 + b / 16), UInt8.ofNat (b * 16 + c / 4)]
  | [a, b] => [UInt8.ofNat (a * 4 + b / 16)]
  | _ => []

def hasUnusedBits : List Nat → Bool
  | [_, b] => b % 16 != 0
  | [_, _, c] => c % 4 != 0
  | _ => false

/-- Reads the last group, which alone may be padded. -/
def lastGroup (i : Nat) (group : List UInt8) : Except Fault (List UInt8) := do
  let symbols := group.takeWhile (· != pad)
  let padding := group.drop symbols.length
  let read ← values i symbols
  if !padding.isEmpty && (symbols.length < 2 || padding.any (· != pad)) then
    throw (.symbol pad (i + symbols.length))
  if !group.isEmpty && symbols.length < 2 then throw (.length (i + symbols.length))
  if group.length % 4 != 0 then throw .padding
  match symbols.getLast? with
  | some b => if hasUnusedBits read then throw (.lastSymbol b (i + symbols.length - 1))
  | none => pure ()
  return octets read

def groups (i : Nat) : List UInt8 → Except Fault (List UInt8)
  | a :: b :: c :: d :: e :: r => do
      let read ← values i [a, b, c, d]
      let rest ← groups (i + 4) (e :: r)
      return octets read ++ rest
  | group => lastGroup i group

def decode (text : List UInt8) : Except Fault (List UInt8) :=
  match text.getLast? with
  | some b =>
      if text.length % 4 = 1 && b != pad && (bits? b).isNone then .error (.symbol b (text.length - 1))
      else groups 0 text
  | none => .ok []

end WebAppTargets.Base64
