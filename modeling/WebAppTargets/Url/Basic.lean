import WebAppTargets.Text.Utf8
import WebAppTargets.Url.Host

namespace WebAppTargets.Url

structure Authority where
  user : List Char := []
  password : List Char := []
  /-- Absent where the address names no host between its slashes. -/
  host : Option Host
  number : Option Nat := none
  deriving DecidableEq

namespace Authority

variable (a : Authority)

def hasCredentials : Bool := !a.user.isEmpty || !a.password.isEmpty

def credentials : List Char :=
  if a.hasCredentials then
    a.user ++ (if a.password.isEmpty then [] else ':' :: a.password) ++ ['@']
  else []

def text : List Char :=
  a.credentials ++ (a.host.map Host.text).getD [] ++
    (a.number.map fun n => ':' :: Nat.toDigits 10 n).getD []

/-- The authority without its credentials, if these can be told by other means. -/
def anonymous : Authority :=
  let isText (s : List Char) : Bool := (Utf8.decode (Percent.decode s)).toOption.isSome
  if isText a.user && (!a.user.isEmpty || (!a.password.isEmpty && isText a.password)) then
    { a with user := [], password := [] }
  else a

end Authority

end Url

/-- An address in normal form: scheme and host in lower case, a port only where the scheme does not
imply it, dot segments resolved, and percent encoded what may not stand in an address. -/
structure Url where
  scheme : List Char
  authority : Option Url.Authority := none
  path : List Char
  query : Option (List Char) := none
  fragment : Option (List Char) := none
  deriving DecidableEq

namespace Url

variable (u : Url)

def host? : Option Host := u.authority.bind Authority.host

def isWeb : Bool := u.scheme = "http".toList || u.scheme = "https".toList

def anonymous : Url := { u with authority := u.authority.map Authority.anonymous }

def target : List Char := u.path ++ (u.query.map ('?' :: ·)).getD []

/-- Without an authority, a path with an empty first segment is told from one by a dot. -/
def beforeTarget : List Char :=
  match u.authority with
  | some a => '/' :: '/' :: a.text
  | none => if ['/', '/'].isPrefixOf u.path then ['/', '.'] else []

def text : String :=
  String.ofList (u.scheme ++ ':' :: u.beforeTarget ++ u.target ++
    (u.fragment.map ('#' :: ·)).getD [])

def maxLength : Nat := 65534

def isUnsendable (c : Char) : Bool := ['"', '`', '{', '}'].contains c

def isSendable : Bool :=
  !u.host?.any (·.text.any isUnsendable) && u.text.length ≤ maxLength

end Url

end WebAppTargets
