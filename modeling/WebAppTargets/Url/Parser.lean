import WebAppTargets.Url.Basic
import WebAppTargets.Url.Path

namespace WebAppTargets.Url

def implied? (scheme : List Char) : Option Nat :=
  if scheme = "http".toList || scheme = "ws".toList then some 80
  else if scheme = "https".toList || scheme = "wss".toList then some 443
  else if scheme = "ftp".toList then some 21
  else none

/-- The input without controls and spaces at its ends, and without tabs and line breaks. -/
def cleaned (s : List Char) : List Char :=
  let isEdge (c : Char) : Bool := c.toNat ≤ 0x20
  (((s.dropWhile isEdge).reverse.dropWhile isEdge).reverse).filter fun c =>
    !(c == '\t' || c == '\n' || c == '\r')

def splitScheme (s : List Char) : Option (List Char × List Char) :=
  match Text.cut [':'] s with
  | some (c :: r, rest) =>
      if c.isAlpha && r.all fun d => d.isAlphanum || d == '+' || d == '-' || d == '.' then
        some ((c :: r).map Char.toLower, rest)
      else none
  | _ => none

def splitAt (mark : Char) (s : List Char) : List Char × Option (List Char) :=
  match Text.cut [mark] s with
  | some (a, b) => (a, some b)
  | none => (s, none)

/-- The number of these digits, and what stands behind them. An implied number is not kept. -/
def numberOf (implied : Option Nat) (s : List Char) : Option (Option Nat × List Char) := do
  let digits := s.takeWhile Char.isDigit
  let rest := s.drop digits.length
  let n ← Text.numeral? 10 digits
  if 65535 < n || rest.head?.any (!isSlash ·) then none
  else some (if digits.isEmpty || implied = some n then none else some n, rest)

/-- The text of a host, which may hold colons in brackets, and what stands behind it. -/
def splitHost (s : List Char) : List Char × List Char :=
  let name := match s with
    | '[' :: _ => s.takeWhile (· != ']') ++ (s.dropWhile (· != ']')).take 1
    | _ => s.takeWhile (· != ':')
  (name, s.drop name.length)

def splitCredentials (s : List Char) : List Char × List Char :=
  let (user, password) := splitAt ':' s
  (Percent.encode inCredentials user, Percent.encode inCredentials (password.getD []))

def hostAndNumber (implied : Option Nat) (s : List Char) :
    Option (Option Host × Option Nat × List Char) := do
  let (name, rest) := splitHost s
  let host ←
    if name.isEmpty then if implied.isSome || !rest.isEmpty then none else some none
    else (if implied.isSome then Host.parse? name else Host.parseForeign? name).map some
  match rest with
  | [] => some (host, none, [])
  | ':' :: digits =>
      let (number, rest) ← numberOf implied digits
      some (host, number, rest)
  | _ => none

/-- The authority in a text, and what stands behind it. Whoever is named has to have a host. -/
def authorityOf (implied : Option Nat) (isLast : Bool) (s : List Char) :
    Option (Authority × List Char) := do
  let hostText := Text.afterLast '@' s
  let before := s.take (s.length - hostText.length)
  let (user, password) := splitCredentials before.dropLast
  let (host, number, rest) ← hostAndNumber implied hostText
  let a : Authority := { user, password, host, number }
  if host.isNone && (a.hasCredentials || (before == ['@'] && !isLast)) then none
  else some (a, rest)

def webParts (implied : Nat) (s : List Char) : Option (Authority × List Char) := do
  let s := s.dropWhile isSlash
  let (a, _) ← authorityOf implied false (s.takeWhile (!isSlash ·))
  some (a, Path.text (Path.segments false isSlash (s.dropWhile (!isSlash ·))))

/-- Authority and path of an address of a file. The host of this machine, and the host in front of a
drive, are not named. -/
def fileParts (s : List Char) : Option (Authority × List Char) := do
  match s with
  | a :: b :: r =>
      let name := r.takeWhile (!isSlash ·)
      if !(isSlash a && isSlash b) then some ({ host := none }, (Path.ofFile s).1)
      else if Path.isDrive name then some ({ host := none }, (Path.ofFile r).1)
      else
        let host ← if name.isEmpty then some none else (Host.parse? name).map some
        let host := host.filter (· != .name "localhost".toList)
        let (path, isDrive) := Path.ofFile (r.drop name.length)
        some ({ host := if isDrive then none else host }, path)
  | s => some ({ host := none }, (Path.ofFile s).1)

/-- Authority and path of other addresses. A path without a slash in front is kept as it is. -/
def foreignParts (isLast : Bool) : List Char → Option (Option Authority × List Char)
  | '/' :: '/' :: r => do
      let path := r.dropWhile (· != '/')
      let (a, rest) ← authorityOf none (isLast && path.isEmpty) (r.takeWhile (· != '/'))
      let path := rest ++ path
      some (a, if path.isEmpty then [] else Path.text (Path.segments false (· == '/') path))
  | '/' :: r => some (none, Path.text (Path.segments false (· == '/') ('/' :: r)))
  | s => some (none, Percent.encode isControl s)

def parse (s : List Char) : Option Url := do
  let (scheme, rest) ← splitScheme (cleaned s)
  let (rest, fragment) := splitAt '#' rest
  let (rest, query) := splitAt '?' rest
  let isFile := scheme = "file".toList
  let (authority, path) ←
    match implied? scheme with
    | some implied => (webParts implied rest).map fun (a, p) => (some a, p)
    | none =>
        if isFile then (fileParts rest).map fun (a, p) => (some a, p)
        else foreignParts (query.isNone && fragment.isNone) rest
  some {
    scheme, authority, path
    query := query.map (Percent.encode (inQuery (isFile || (implied? scheme).isSome)))
    fragment := fragment.map (Percent.encode inFragment) }

end WebAppTargets.Url
