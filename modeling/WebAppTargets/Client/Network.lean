import WebAppTargets.Error
import WebAppTargets.Json.Reader
import WebAppTargets.Url.Parser

namespace WebAppTargets

inductive Method where
  | get | post | put
  deriving DecidableEq

def Method.text : Method → String
  | .get => "GET"
  | .post => "POST"
  | .put => "PUT"

structure Request where
  method : Method
  /-- The address as it was asked for. -/
  url : String
  token : String
  body : Option Json.Value := none
  deriving DecidableEq

namespace Request

def authorization (r : Request) : String := s!"Bearer {r.token}"

def target (r : Request) : String :=
  String.ofList (((Url.parse r.url.toList).map Url.target).getD [])

/-- A token that can stand in a header: no control character but the tab. -/
def hasPlainToken (r : Request) : Bool :=
  r.token.toList.all fun c => c == '\t' || (0x20 ≤ c.toNat && c.toNat != 0x7F)

def destination (r : Request) : Except Error Url :=
  match Url.parse r.url.toList with
  | none => .error (.other "builder error")
  | some u =>
      if u.host?.isNone then .error (.other s!"builder error for url ({u.text})")
      else if !r.hasPlainToken then .error (.other "builder error")
      else if u.isWeb && u.anonymous.isSendable then .ok u.anonymous
      else .error (.other s!"builder error for url ({u.anonymous.text})")

end Request

/-- Octets, which need not be those of a text. -/
structure Body where
  octets : List UInt8
  deriving DecidableEq

namespace Body

instance : Coe String Body := ⟨fun s => ⟨Utf8.encode s⟩⟩

def letters (b : Body) : Json.Letters := Utf8.letters 0 b.octets

def text (b : Body) : String := Utf8.decodeLossy b.octets

end Body

structure Reply where
  status : Nat
  body : Body
  deriving DecidableEq

namespace Reply

def isSuccess (r : Reply) : Bool := 200 ≤ r.status && r.status < 300

def exhausted : Reply := ⟨599, "script exhausted"⟩

def outcome (r : Reply) : Except Error Body :=
  if r.isSuccess then .ok r.body else .error (.ofStatus r.status r.body.text)

end Reply

/-- A service with its replies laid out beforehand, one for each request, or no service at all. -/
structure Network where
  isOnline : Bool := true
  replies : List Reply := []
  received : List Request := []

namespace Network

/-- Sends a request. One that does not get through takes no reply. -/
def send (n : Network) (r : Request) : Except Error Body × Network :=
  match r.destination with
  | .error e => (.error e, n)
  | .ok u =>
      if n.isOnline then
        ((n.replies.head?.getD .exhausted).outcome,
          { n with replies := n.replies.tail, received := n.received ++ [r] })
      else (.error (.other s!"error sending request for url ({u.text})"), n)

end Network

end WebAppTargets
