import WebAppTargets.Text.Hex
import WebAppTargets.Text.Utf8

namespace WebAppTargets.Percent

def digit (n : Nat) : Char := (Nat.digitChar n).toUpper

def octet (b : UInt8) : List Char := ['%', digit (b.toNat / 16), digit (b.toNat % 16)]

def char (reserved : Char → Bool) (c : Char) : List Char :=
  if reserved c then (Utf8.encode (String.singleton c)).flatMap octet else [c]

def encode (reserved : Char → Bool) (s : List Char) : List Char := s.flatMap (char reserved)

/-- The octets that a text stands for. A percent sign without two digits stands for itself. -/
def decode : List Char → List UInt8
  | [] => []
  | '%' :: h :: l :: r =>
      match Text.hexDigit? h, Text.hexDigit? l with
      | some h, some l => UInt8.ofNat (h * 16 + l) :: decode r
      | _, _ => Utf8.encode "%" ++ decode (h :: l :: r)
  | c :: r => Utf8.encode (String.singleton c) ++ decode r

end WebAppTargets.Percent
