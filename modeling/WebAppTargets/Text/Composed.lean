import WebAppTargets.Text.Composed.Classes
import WebAppTargets.Text.Composed.Pairs

namespace WebAppTargets.Text

structure Pair where
  first : Char
  second : Char
  whole : Char

def pairsWith (second : Char) : List Char → List Pair
  | first :: whole :: r => ⟨first, second, whole⟩ :: pairsWith second r
  | _ => []

def pairs : List Pair := pairTable.flatMap fun (n, s) => pairsWith (Char.ofNat n) s.toList

/-- Syllables of the Korean script are numbered by their 19 leading consonants, 21 vowels and, with
none as the first, 28 trailing consonants. -/
def joinSyllable? (a b : Char) : Option Char :=
  let n := a.toNat
  let m := b.toNat
  if 0x1100 ≤ n && n < 0x1113 && 0x1161 ≤ m && m < 0x1176 then
    some (Char.ofNat (0xAC00 + ((n - 0x1100) * 21 + (m - 0x1161)) * 28))
  else if 0xAC00 ≤ n && n < 0xD7A4 && (n - 0xAC00) % 28 = 0 && 0x11A7 < m && m < 0x11C3 then
    some (Char.ofNat (n + (m - 0x11A7)))
  else none

def splitSyllable? (c : Char) : Option (Char × Char) :=
  let n := c.toNat - 0xAC00
  if c.toNat < 0xAC00 || 0xD7A4 ≤ c.toNat then none
  else if n % 28 = 0 then
    some (Char.ofNat (0x1100 + n / 588), Char.ofNat (0x1161 + n % 588 / 28))
  else some (Char.ofNat (c.toNat - n % 28), Char.ofNat (0x11A7 + n % 28))

def join? (a b : Char) : Option Char :=
  match joinSyllable? a b with
  | some c => some c
  | none => (pairs.find? fun p => p.second == b && p.first == a).map Pair.whole

def split? (c : Char) : Option (Char × Char) :=
  match splitSyllable? c with
  | some p => some p
  | none => (pairs.find? fun p => p.whole == c).map fun p => (p.first, p.second)

def parts : Nat → Char → List Char
  | 0, c => [c]
  | n + 1, c =>
      match split? c with
      | some (a, b) => parts n a ++ [b]
      | none => [c]

/-- No character is a pair of a pair of a pair of a pair. -/
def depth : Nat := 3

/-- Puts a character in front of marks in order: a mark goes behind those of lower classes. -/
def place (c : Char) : List Char → List Char
  | [] => [c]
  | d :: r =>
      if 0 < combiningClass d && combiningClass d < combiningClass c then d :: place c r
      else c :: d :: r

def ordered (s : List Char) : List Char := s.foldr place []

/-- Joins a letter with the marks that follow it. Marks that stay beside it are in `marks`, the last
one first; a mark reaches the letter only past marks of lower classes. -/
def attach (letter : Char) (marks : List Char) : List Char → List Char
  | [] => letter :: marks.reverse
  | c :: r =>
      let isNear := marks.all (combiningClass · < combiningClass c)
      match if isNear then join? letter c else none with
      | some d => attach d marks r
      | none =>
          if combiningClass c = 0 then letter :: marks.reverse ++ attach c [] r
          else attach letter (c :: marks) r

/-- Takes letters and their marks apart, orders the marks and joins what makes one character. -/
def composed (s : List Char) : List Char :=
  match ordered (s.flatMap (parts depth)) with
  | [] => []
  | c :: r => attach c [] r

end WebAppTargets.Text
