import WebAppTargets.Json.Value

namespace WebAppTargets.Json

/-- The parts of a numeral; the exponent has a sign, true for a minus. -/
structure Numeral where
  negative : Bool
  whole : List Nat
  fraction : Option (List Nat)
  exponent : Option (Bool × List Nat)

namespace Numeral

/-- Takes up digits while the number stays below `2 ^ 64`, and gives those left. -/
def fit (n : Nat) : List Nat → Nat × List Nat
  | [] => (n, [])
  | d :: r => if 0x10000000000000000 ≤ n * 10 + d then (n, d :: r) else fit (n * 10 + d) r

def ofDigits (ds : List Nat) : Nat := ds.foldl (fun n d => n * 10 + d) 0

/-- The magnitude of the kept digits times ten to the exponent; exponents above 31 bits are
decided by their sign. -/
def magnitude? (digits : Nat) (e : Int) : Option (Bool × List Nat) → Option Nat
  | none => do Double.scale? (← Double.ofNat? digits) e
  | some (minus, ds) =>
      let n := ofDigits ds
      if n < 0x80000000 then do
        Double.scale? (← Double.ofNat? digits) (if minus then e - n else e + n)
      else if digits = 0 || minus then some 0
      else none

/-- Without a point or exponent, a whole number if it fits 64 bits; `-0` and all others are
floating. Of a floating number the leading digits below `2 ^ 64` are kept and then scaled by the
power of ten, so it may differ from the nearest one in the last place. -/
def value? (x : Numeral) : Option Number :=
  let (digits, more) := fit 0 x.whole
  match x.fraction, x.exponent, more with
  | none, none, [] =>
      if !x.negative then some (.int digits)
      else if 0 < digits && digits ≤ 0x8000000000000000 then some (.int (-digits))
      else (magnitude? digits 0 none).map fun u => .float ⟨true, u⟩
  | fraction, exponent, more =>
      let ds := fraction.getD []
      let (digits, rest) := fit digits ds
      let e : Int := more.length - (ds.length - rest.length : Nat)
      (magnitude? digits e exponent).map fun u => .float ⟨x.negative, u⟩

end Numeral

end WebAppTargets.Json
