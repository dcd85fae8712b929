namespace WebAppTargets.Text

def hexDigit? (c : Char) : Option Nat :=
  if c.isDigit then some (c.toNat - 48)
  else if 'a' ≤ c && c ≤ 'f' then some (c.toNat - 87)
  else if 'A' ≤ c && c ≤ 'F' then some (c.toNat - 55)
  else none

def isHex (c : Char) : Bool := (hexDigit? c).isSome

/-- The number of a numeral to some base, or none if a digit is too large for it. -/
def numeral? (base : Nat) (s : List Char) : Option Nat :=
  s.foldlM (fun n c => (hexDigit? c).bind fun d => if d < base then some (n * base + d) else none) 0

end WebAppTargets.Text
