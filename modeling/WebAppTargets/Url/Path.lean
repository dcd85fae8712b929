import WebAppTargets.Text.Split
import WebAppTargets.Url.Encoding

namespace WebAppTargets.Url

def isSlash (c : Char) : Bool := c == '/' || c == '\\'

namespace Path

/-- The number of dots in a segment of nothing but dots, written plainly or encoded. -/
def dots? : List Char → Option Nat
  | [] => some 0
  | '.' :: r => (dots? r).map (· + 1)
  | '%' :: '2' :: e :: r => if e == 'e' || e == 'E' then (dots? r).map (· + 1) else none
  | _ => none

def isDrive : List Char → Bool
  | [c, m] => c.isAlpha && (m == ':' || m == '|')
  | _ => false

/-- A segment that is not taken back. -/
def isFixed (s : List Char) : Bool := isDrive (s.takeWhile (· != '\\'))

/-- The kept segments without the last one; `done` holds them, the last one first. -/
def shortened (done : List (List Char)) : List (List Char) :=
  match done with
  | s :: r => if isFixed s then s :: r else r
  | [] => []

/-- A segment as it is kept. In the path of a file, a drive at the start gets its colon. -/
def kept (isFile : Bool) (done : List (List Char)) (s : List Char) : List Char :=
  if isFile && done.isEmpty && isDrive s then s.take 1 ++ [':'] else Percent.encode inPath s

def resolve (isFile : Bool) (done : List (List Char)) : List (List Char) → List (List Char)
  | [] => done.reverse
  | s :: rest =>
      let ended (l : List (List Char)) := if rest.isEmpty then [] :: l else l
      match dots? s with
      | some 1 => resolve isFile (ended done) rest
      | some 2 => resolve isFile (ended (shortened done)) rest
      | _ => resolve isFile (kept isFile done s :: done) rest

def segments (isFile : Bool) (mark : Char → Bool) (s : List Char) : List (List Char) :=
  let s := match s with
    | [] => []
    | c :: r => if mark c then r else c :: r
  resolve isFile [] (Text.pieces mark s)

def text (segments : List (List Char)) : List Char := segments.flatMap ('/' :: ·)

/-- The path of a file, and whether it starts with a drive. Slashes at its start count as one. -/
def ofFile (s : List Char) : List Char × Bool :=
  let found := segments true isSlash s
  ('/' :: (text found).dropWhile (· == '/'), found.head?.any isDrive)

end Path

end WebAppTargets.Url
