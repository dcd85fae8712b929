namespace WebAppTargets.Domain.Punycode

def digit (d : Nat) : Char := Char.ofNat (if d < 26 then 0x61 + d else 0x30 + (d - 26))

def value? (c : Char) : Option Nat :=
  if 'a' ≤ c && c ≤ 'z' then some (c.toNat - 0x61)
  else if c.isDigit then some (c.toNat - 0x30 + 26)
  else none

/-- The last digit of a numeral is below this; `k` grows by 36 with each digit. -/
def threshold (bias k : Nat) : Nat := max 1 (min 26 (k - bias))

/-- A numeral, the lowest digit first. -/
def numeral (bias k n : Nat) : List Char :=
  let t := threshold bias k
  if n < t then [digit n]
  else digit (t + (n - t) % (36 - t)) :: numeral bias (k + 36) ((n - t) / (36 - t))
termination_by n
decreasing_by
  have h : 1 ≤ threshold bias k := Nat.le_max_left _ _
  have := Nat.div_le_self (n - threshold bias k) (36 - threshold bias k)
  omega

def scale (step : Nat) : Nat :=
  if step ≤ 455 then 36 * step / (step + 38) else 36 + scale (step / 35)

def adapted (step count : Nat) (isFirst : Bool) : Nat :=
  let step := step / (if isFirst then 700 else 2)
  scale (step + step / count)

def firstBias : Nat := 72

def isBasic (c : Char) : Bool := c.toNat < 0x80

/-- Steps to the places of the code point `n` in a text; `step` has been made before. The result
begins with what is left of the last step. -/
def stepsTo (n : Nat) (step : Nat) : List Char → Nat × List Nat
  | [] => (step, [])
  | c :: r =>
      if c.toNat < n then stepsTo n (step + 1) r
      else if c.toNat = n then
        let (left, steps) := stepsTo n 0 r
        (left, step :: steps)
      else stepsTo n step r

/-- All steps for the code points in order, of which `n` is the first that can come. -/
def steps (s : List Char) (n count step : Nat) : List Nat → List Nat
  | [] => []
  | m :: later =>
      let (left, found) := stepsTo m (step + (m - n) * (count + 1)) s
      found ++ steps s (m + 1) (count + found.length) (left + 1) later

def numerals (bias count : Nat) (isFirst : Bool) : List Nat → List Char
  | [] => []
  | n :: r =>
      numeral bias 36 n ++ numerals (adapted n (count + 1) isFirst) (count + 1) false r

def insertOnce (n : Nat) : List Nat → List Nat
  | [] => [n]
  | m :: r => if n < m then n :: m :: r else if n = m then m :: r else m :: insertOnce n r

/-- The ASCII characters come first, then for each other character, in the order of code points, how
far it lies behind the one before. Past the end of the text a step goes on with the next code
point. -/
def encode (s : List Char) : List Char :=
  let basic := s.filter isBasic
  let points := ((s.filter (!isBasic ·)).map Char.toNat).foldr insertOnce []
  let tail := numerals firstBias basic.length true (steps s 0x80 basic.length 0 points)
  if basic.isEmpty then tail else basic ++ '-' :: tail

/-- Reads the steps; `n` and `weight` are what the digits of an open numeral make so far. -/
def steps? (bias count : Nat) (isFirst : Bool) (k weight n : Nat) : List Char → Option (List Nat)
  | [] => if k = 36 then some [] else none
  | c :: r =>
      match value? c with
      | none => none
      | some d =>
          let t := threshold bias k
          let n := n + d * weight
          if d < t then
            (steps? (adapted n (count + 1) isFirst) (count + 1) false 36 1 0 r).map (n :: ·)
          else steps? bias count isFirst (k + 36) (weight * (36 - t)) n r

/-- Puts characters into a text: `n` is the code point and `place` the place that steps start
from. -/
def insertAll (s : List Char) (n place : Nat) : List Nat → Option (List Char)
  | [] => some s
  | step :: r =>
      let size := s.length + 1
      let m := n + (place + step) / size
      let i := (place + step) % size
      if m.isValidChar then insertAll (s.take i ++ Char.ofNat m :: s.drop i) m (i + 1) r else none

def decode (s : List Char) : Option (List Char) :=
  let tail := (s.reverse.takeWhile (· != '-')).reverse
  let basic := s.take (s.length - tail.length - 1)
  if basic.isEmpty && tail != s then none
  else do
    let steps ← steps? firstBias basic.length true 36 1 0 tail
    insertAll basic 0x80 0 steps

end WebAppTargets.Domain.Punycode
