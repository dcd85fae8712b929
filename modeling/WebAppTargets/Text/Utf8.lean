namespace WebAppTargets.Utf8

inductive Fault where
  | invalid (length index : Nat)
  | incomplete (index : Nat)
  deriving DecidableEq

def Fault.message : Fault → String
  | .invalid n i => s!"invalid utf-8 sequence of {n} bytes from index {i}"
  | .incomplete i => s!"incomplete utf-8 byte sequence from index {i}"

/-- What a first octet announces: the length of its sequence and the range of the second octet. -/
def announced (b : UInt8) : Option (Nat × UInt8 × UInt8) :=
  if b < 0x80 then some (1, 0, 0)
  else if b < 0xC2 then none
  else if b < 0xE0 then some (2, 0x80, 0xBF)
  else if b = 0xE0 then some (3, 0xA0, 0xBF)
  else if b = 0xED then some (3, 0x80, 0x9F)
  else if b < 0xF0 then some (3, 0x80, 0xBF)
  else if b = 0xF0 then some (4, 0x90, 0xBF)
  else if b < 0xF4 then some (4, 0x80, 0xBF)
  else if b = 0xF4 then some (4, 0x80, 0x8F)
  else none

inductive Sequence where
  | whole (length : Nat) (code : Nat)
  | broken (length : Nat)
  | short

def later (code done : Nat) : Nat → List UInt8 → Sequence
  | 0, _ => .whole done code
  | _ + 1, [] => .short
  | n + 1, b :: r =>
      if 0x80 ≤ b && b ≤ 0xBF then later (code * 64 + (b.toNat - 0x80)) (done + 1) n r
      else .broken done

def sequence (b : UInt8) (r : List UInt8) : Sequence :=
  match announced b with
  | none => .broken 1
  | some (1, _) => .whole 1 b.toNat
  | some (n, lo, hi) =>
      match r with
      | [] => .short
      | c :: r =>
          if lo ≤ c && c ≤ hi then
            later ((b.toNat % Nat.pow 2 (7 - n)) * 64 + (c.toNat - 0x80)) 2 (n - 2) r
          else .broken 1

/-- The first fault at or after position `i`, when `skip` octets still belong to the character
before. -/
def fault? (i : Nat) : Nat → List UInt8 → Option Fault
  | _, [] => none
  | skip + 1, _ :: r => fault? (i + 1) skip r
  | 0, b :: r =>
      match sequence b r with
      | .whole n _ => fault? (i + 1) (n - 1) r
      | .broken n => some (.invalid n i)
      | .short => some (.incomplete i)

/-- The characters in order, and `none` for each octet outside of any. -/
def letters : Nat → List UInt8 → List (Option Char)
  | _, [] => []
  | skip + 1, _ :: r => letters skip r
  | 0, b :: r =>
      match sequence b r with
      | .whole n code => some (Char.ofNat code) :: letters (n - 1) r
      | _ => none :: letters 0 r

/-- The characters in order, and a replacement for each faulty sequence as far as it could still have
become a character. -/
def replaced : Nat → List UInt8 → List Char
  | _, [] => []
  | skip + 1, _ :: r => replaced skip r
  | 0, b :: r =>
      match sequence b r with
      | .whole n code => Char.ofNat code :: replaced (n - 1) r
      | .broken n => '\uFFFD' :: replaced (n - 1) r
      | .short => ['\uFFFD']

def encode (s : String) : List UInt8 := s.toUTF8.data.toList

def decode (octets : List UInt8) : Except Fault String :=
  match String.fromUTF8? ⟨octets.toArray⟩ with
  | some s => .ok s
  | none => .error ((fault? 0 0 octets).getD (.incomplete 0))

def decodeLossy (octets : List UInt8) : String := String.ofList (replaced 0 octets)

theorem decode_encode (s : String) : decode (encode s) = .ok s := by
  have h : String.fromUTF8? ⟨(encode s).toArray⟩ = some s := by
    simp only [encode, Array.toArray_toList]
    exact dif_pos s.isValidUTF8
  simp [decode, h]

end WebAppTargets.Utf8
