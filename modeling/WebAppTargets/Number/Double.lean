namespace WebAppTargets

/-- A finite number of double precision, its magnitude in units of the smallest positive one, `2 ^
-1074`. -/
structure Double where
  negative : Bool
  units : Nat
  deriving DecidableEq

namespace Double

/-- The nearest natural number to a fraction, the even one when two are equally near. -/
def nearest (num den : Nat) : Nat :=
  let q := num / den
  let r := num % den
  if 2 * r < den || (2 * r == den && q % 2 == 0) then q else q + 1

/-- How many low bits the numbers near `n` units leave zero. -/
def step (n : Nat) : Nat := n.log2 - 52

def round? (num den : Nat) : Option Nat :=
  let n := num * Nat.pow 2 1074
  let s := step (n / den)
  let u := nearest n (den * Nat.pow 2 s) * Nat.pow 2 s
  if u < Nat.pow 2 2098 then some u else none

def ofNat? (n : Nat) : Option Nat := round? n 1

def mul? (a b : Nat) : Option Nat := round? (a * b) (Nat.pow 2 2148)

def div? (a b : Nat) : Option Nat := round? a b

/-- Magnitude times a power of ten, as scaling by `10 ^ 308` at most in each step gives it. -/
def scale? (units : Nat) (e : Int) : Option Nat :=
  if e.natAbs ≤ 308 then do
    let power ← ofNat? (Nat.pow 10 e.natAbs)
    if 0 ≤ e then mul? units power else div? units power
  else if units = 0 then some 0
  else if 0 ≤ e then none
  else do
    let power ← ofNat? (Nat.pow 10 308)
    let smaller ← div? units power
    scale? smaller (e + 308)
termination_by e.natAbs
decreasing_by omega

end Double

end WebAppTargets
