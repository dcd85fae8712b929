import WebAppTargets.Json.Node
import WebAppTargets.Json.Numeral
import WebAppTargets.Text.Hex
import WebAppTargets.Text.Utf8

namespace WebAppTargets.Json

abbrev Letters := List (Option Char)

namespace Reader

def isSpace : Option Char → Bool
  | some c => c == ' ' || c == '\t' || c == '\n' || c == '\r'
  | none => false

def skipSpace (s : Letters) : Letters := s.dropWhile isSpace

/-- Parts of a string literal: a character, half of a surrogate pair or another unit written as
`\uXXXX`, or an octet outside of any character. -/
inductive Piece where
  | char (c : Char)
  | unit (u : Nat)
  | stray

def hexUnit? (a b c d : Option Char) : Option Nat := do
  Text.numeral? 16 [← a, ← b, ← c, ← d]

def escaped? (c : Char) : Option Char :=
  if c = '"' || c = '\\' || c = '/' then some c
  else if c = 'b' then some (Char.ofNat 8)
  else if c = 'f' then some (Char.ofNat 12)
  else if c = 'n' then some '\n'
  else if c = 'r' then some '\r'
  else if c = 't' then some '\t'
  else none

def octetCount (s : Letters) : Nat := s.foldr (fun l n => (l.map Char.utf8Size).getD 1 + n) 0

def pieces : Letters → List Piece × Except Fault Letters
  | [] => ([], .error .eof)
  | none :: r => let (ps, e) := pieces r; (.stray :: ps, e)
  | some c :: r =>
      if c = '"' then ([], .ok r)
      else if c = '\\' then
        match r with
        | [] => ([], .error .eof)
        | some 'u' :: a :: b :: c :: d :: r =>
            match hexUnit? a b c d with
            | some u => let (ps, e) := pieces r; (.unit u :: ps, e)
            | none => ([], .error .malformed)
        | some 'u' :: r => ([], .error (if octetCount r < 4 then .eof else .malformed))
        | none :: _ => ([], .error .malformed)
        | some c :: r =>
            match escaped? c with
            | some c => let (ps, e) := pieces r; (.char c :: ps, e)
            | none => ([], .error .malformed)
      else if c.toNat < 0x20 then ([], .error .malformed)
      else let (ps, e) := pieces r; (.char c :: ps, e)

def isHigh (u : Nat) : Bool := 0xD800 ≤ u && u < 0xDC00

def isLow (u : Nat) : Bool := 0xDC00 ≤ u && u < 0xE000

/-- The text of a literal whose pieces end in `ending`, or the first fault when the literal is kept.
Only at its end can an octet outside of any character be noticed. -/
def text (ending : Option Fault) : List Piece → Except Fault (List Char)
  | [] => match ending with
      | some f => .error f
      | none => .ok []
  | .char c :: r => (text ending r).map (c :: ·)
  | .stray :: r => do
      let _ ← text ending r
      throw .malformed
  | .unit u :: r =>
      if isLow u then .error .malformed
      else if isHigh u then
        match r with
        | [] => .error (ending.getD .malformed)
        | .unit v :: r =>
            if isLow v then
              (text ending r).map (Char.ofNat (0x10000 + (u - 0xD800) * 0x400 + (v - 0xDC00)) :: ·)
            else .error .malformed
        | _ :: _ => .error .malformed
      else (text ending r).map (Char.ofNat u :: ·)

def string (s : Letters) : Node × Option Letters :=
  match pieces s with
  | (ps, .ok rest) =>
      match text none ps with
      | .ok cs => (.string (some (String.ofList cs)), some rest)
      | .error _ => (.string none, some rest)
  | (ps, .error skipped) =>
      match text (some skipped) ps with
      | .ok _ => (.cutString skipped skipped, none)
      | .error kept => (.cutString kept skipped, none)

def word (node : Node) : List Char → Letters → Node × Option Letters
  | [], s => (node, some s)
  | _ :: _, [] => (.cutWord .eof .eof, none)
  | c :: w, l :: s => if l = some c then word node w s else (.cutWord .malformed .malformed, none)

def digits : Letters → List Nat × Letters
  | some c :: r =>
      if c.isDigit then let (ds, r) := digits r; ((c.toNat - 48) :: ds, r) else ([], some c :: r)
  | s => ([], s)

/-- A digit is missing: a skipped number is then wrong even where the text ends. -/
def noDigit (s : Letters) : Node × Option Letters :=
  (.cutWord (if s.isEmpty then .eof else .malformed) .malformed, none)

def exponent (negative : Bool) (whole : List Nat) (fraction : Option (List Nat)) (s : Letters) :
    Node × Option Letters :=
  let plain := (Node.number (Numeral.value? ⟨negative, whole, fraction, none⟩), some s)
  match s with
  | some c :: r =>
      if c = 'e' || c = 'E' then
        let (minus, r) := match r with
          | some '-' :: r => (true, r)
          | some '+' :: r => (false, r)
          | r => (false, r)
        match digits r with
        | ([], r) => noDigit r
        | (ds, r) => (.number (Numeral.value? ⟨negative, whole, fraction, some (minus, ds)⟩), some r)
      else plain
  | _ => plain

def fraction (negative : Bool) (whole : List Nat) : Letters → Node × Option Letters
  | some '.' :: r =>
      match digits r with
      | ([], r) => noDigit r
      | (ds, r) => exponent negative whole (some ds) r
  | s => exponent negative whole none s

/-- A number after its sign; a zero cannot be followed by more digits. -/
def number (negative : Bool) (s : Letters) : Node × Option Letters :=
  match digits s with
  | ([], r) => noDigit r
  | (0 :: _ :: _, _) => (.cutWord .malformed .malformed, none)
  | (ds, r) => fraction negative ds r

mutual
/-- The first argument bounds the nesting and the number of items. -/
def value : Nat → Letters → Node × Option Letters
  | 0, _ => (.absent .eof, none)
  | fuel + 1, s =>
      match skipSpace s with
      | [] => (.absent .eof, none)
      | none :: _ => (.absent .malformed, none)
      | some c :: r =>
          if c = '"' then string r
          else if c = '[' then
            match skipSpace r with
            | [] => (.array (.cut .eof), none)
            | some ']' :: r => (.array .closed, some r)
            | r => let (is, rest) := items fuel r; (.array is, rest)
          else if c = '\x7b' then
            match skipSpace r with
            | [] => (.object (.cut .eof), none)
            | some '\x7d' :: r => (.object .closed, some r)
            | r => let (ms, rest) := members fuel r; (.object ms, rest)
          else if c = 'n' then word .null "ull".toList r
          else if c = 't' then word (.bool true) "rue".toList r
          else if c = 'f' then word (.bool false) "alse".toList r
          else if c = '-' then number true r
          else if c.isDigit then number false (some c :: r)
          else (.absent .malformed, none)
def items : Nat → Letters → Items × Option Letters
  | 0, _ => (.cut .eof, none)
  | fuel + 1, s =>
      match value fuel s with
      | (v, none) => (.item v (.cut .malformed), none)
      | (v, some r) =>
          match skipSpace r with
          | [] => (.item v (.cut .eof), none)
          | some ',' :: r => let (is, rest) := items fuel r; (.item v is, rest)
          | some ']' :: r => (.item v .closed, some r)
          | _ => (.item v (.cut .malformed), none)
def members : Nat → Letters → Members × Option Letters
  | 0, _ => (.cut .eof, none)
  | fuel + 1, s =>
      match skipSpace s with
      | some '"' :: r =>
          match string r with
          | (k, none) => (.member k (.absent .malformed) (.cut .malformed), none)
          | (k, some r) =>
              match skipSpace r with
              | [] => (.member k (.absent .eof) (.cut .malformed), none)
              | some ':' :: r =>
                  match value fuel r with
                  | (v, none) => (.member k v (.cut .malformed), none)
                  | (v, some r) =>
                      match skipSpace r with
                      | [] => (.member k v (.cut .eof), none)
                      | some ',' :: r => let (ms, rest) := members fuel r; (.member k v ms, rest)
                      | some '\x7d' :: r => (.member k v .closed, some r)
                      | _ => (.member k v (.cut .malformed), none)
              | _ => (.member k (.absent .malformed) (.cut .malformed), none)
      | s => (.member (value fuel s).1 (.absent .malformed) (.cut .malformed), none)
end

end Reader

/-- The value at the start of a text, and whether anything but space follows it. -/
def read (s : Letters) : Node × Bool :=
  let (v, rest) := Reader.value (2 * s.length + 2) s
  (v, !(Reader.skipSpace (rest.getD [])).isEmpty)

def lettersOf (s : String) : Letters := s.toList.map some

def decodeLetters {α : Type} (decode : Node → Except Error α) (s : Letters) : Except Error α := do
  let (v, more) := read s
  let a ← decode v
  if more then throw (.text .malformed)
  return a

def decodeText {α : Type} (decode : Node → Except Error α) (s : String) : Except Error α :=
  decodeLetters decode (lettersOf s)

end WebAppTargets.Json
