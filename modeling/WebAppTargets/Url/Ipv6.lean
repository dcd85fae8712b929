import WebAppTargets.Text.Hex
import WebAppTargets.Text.Split

namespace WebAppTargets.Url.Ipv6

/-- One of four octets: decimal, without zeros in front. -/
def octet? : List Char → Option Nat
  | [] => none
  | ['0'] => some 0
  | '0' :: _ => none
  | s => (Text.numeral? 10 s).filter (· < 256)

def octets? (s : List Char) : Option (Nat × Nat) := do
  match ← (Text.pieces (· == '.') s).mapM octet? with
  | [a, b, c, d] => some (a * 256 + b, c * 256 + d)
  | _ => none

/-- Reads groups while some are `free`. The groups before are in `done`, the last one first; a gap
counts as one of them and is known by how many there are up to it. -/
def groups? (gap : Option Nat) (done : List Nat) : Nat → List Char → Option (List Nat × Option Nat)
  | _, [] => some (done.reverse, gap)
  | 0, _ :: _ => none
  | free + 1, ':' :: r =>
      if gap.isSome then none else groups? (some (done.length + 1)) (0 :: done) free r
  | free + 1, c :: r =>
      let digits := ((c :: r).take 4).takeWhile Text.isHex
      let n := (Text.numeral? 16 digits).getD 0
      match (c :: r).drop digits.length with
      | [] => some ((n :: done).reverse, gap)
      | ':' :: d :: r => groups? gap (n :: done) free (d :: r)
      | '.' :: _ =>
          if digits.isEmpty || free = 0 then none
          else (octets? (c :: r)).map fun (a, b) => ((b :: a :: done).reverse, gap)
      | _ => none

def parse? (s : List Char) : Option (List Nat) := do
  let (groups, gap) ← match s with
    | ':' :: ':' :: r => groups? (some 1) [0] 7 r
    | ':' :: _ => none
    | s => groups? none [] 8 s
  match gap with
  | some i => some (groups.take i ++ List.replicate (8 - groups.length) 0 ++ groups.drop i)
  | none => if groups.length = 8 then some groups else none

/-- Start and length of the longest run of zeros, the first of the longest ones. -/
def longestRun (i : Nat) : List Nat → Nat × Nat
  | [] => (i, 0)
  | g :: r =>
      let here := ((g :: r).takeWhile (· == 0)).length
      let (start, size) := longestRun (i + 1) r
      if size ≤ here then (i, here) else (start, size)

/-- Two zeros or more are left out. -/
def text (groups : List Nat) : List Char :=
  let written (l : List Nat) : List Char := [':'].intercalate (l.map (Nat.toDigits 16))
  let (start, size) := longestRun 0 groups
  if size < 2 then written groups
  else written (groups.take start) ++ ':' :: ':' :: written (groups.drop (start + size))

end WebAppTargets.Url.Ipv6
