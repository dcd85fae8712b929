import WebAppTargets.Number.Double

namespace WebAppTargets.Double

/-- Four times the units of the ends of the interval that is rounded to `u`. -/
def interval (u : Nat) : Nat × Nat :=
  let ulp := Nat.pow 2 (step u)
  (4 * u - (if u = Nat.pow 2 52 * ulp ∧ 1 < ulp then ulp else 2 * ulp), 4 * u + 2 * ulp)

/-- Compares `d * 10 ^ g` with a quarter of `x` units: both sides as natural numbers. -/
def onGrid (d : Nat) (g : Int) (x : Nat) : Nat × Nat :=
  (d * Nat.pow 10 g.toNat * Nat.pow 2 1076, x * Nat.pow 10 (-g).toNat)

/-- Whether `d * 10 ^ g` is rounded to `u`; the ends of the interval are when `u` is even. -/
def readsBack (u d : Nat) (g : Int) : Bool :=
  let (lo, hi) := interval u
  let below := onGrid d g lo
  let above := onGrid d g hi
  if u / Nat.pow 2 (step u) % 2 = 0 then below.2 ≤ below.1 && above.1 ≤ above.2
  else below.2 < below.1 && above.1 < above.2

def leading (u : Nat) : Int :=
  let place := (List.range 633).find? fun (i : Nat) =>
    let (d, x) := onGrid 1 (308 - (i : Int)) (4 * u)
    d ≤ x
  308 - (place.getD 632 : Int)

/-- The nearer of the two neighbours of `u` on the grid of step `10 ^ g` that read back. -/
def onStep? (u : Nat) (g : Int) : Option Nat :=
  let (one, x) := onGrid 1 g (4 * u)
  let d := x / one
  let below := readsBack u d g && 0 < d
  let above := readsBack u (d + 1) g
  let r := x % one
  if below && above then
    some (if 2 * r < one || (2 * r == one && d % 2 == 0) then d else d + 1)
  else if below then some d
  else if above then some (d + 1)
  else none

/-- The shortest digits as a number, and the exponent of the last of them. A neighbour above may
have carried into a new first digit; the zeros after it are left out. -/
def shortest (u : Nat) : Nat × Int :=
  let k := leading u
  let found := (List.range 17).findSome? fun (n : Nat) =>
    (onStep? u (k - n)).map fun d => if d = Nat.pow 10 (n + 1) then (1, k + 1) else (d, k - n)
  found.getD (0, 0)

def layout (d : Nat) (g : Int) : String :=
  let digits := toString d
  let e := g + digits.length - 1
  if -5 ≤ e && e ≤ 15 then
    if 0 ≤ g then digits ++ String.ofList (List.replicate g.toNat '0') ++ ".0"
    else if 0 ≤ e then
      String.ofList (digits.toList.take (e.toNat + 1)) ++ "." ++
        String.ofList (digits.toList.drop (e.toNat + 1))
    else "0." ++ String.ofList (List.replicate (-e - 1).toNat '0') ++ digits
  else
    let mantissa :=
      if digits.length = 1 then digits
      else String.ofList (digits.toList.take 1) ++ "." ++ String.ofList (digits.toList.drop 1)
    mantissa ++ (if e < 0 then "e-" else "e+") ++ toString e.natAbs

/-- The fewest digits that are read back as the same number, of these the nearest: positional from
`10 ^ -5` up to `10 ^ 16`, with an exponent otherwise. -/
def text (x : Double) : String :=
  let sign := if x.negative then "-" else ""
  if x.units = 0 then sign ++ "0.0"
  else
    let (d, g) := shortest x.units
    sign ++ layout d g

end WebAppTargets.Double
