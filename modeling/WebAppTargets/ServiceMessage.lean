import WebAppTargets.Error
import WebAppTargets.Text.Utf8

namespace WebAppTargets

structure ServiceMessage where
  name : String
  attributes : List (String × String) := []
  deriving DecidableEq

inductive MessageFault where
  | noEnvelope
  | noName
  | noAttribute
  | openValue
  | notBase64 (f : Base64.Fault)
  | notUtf8 (f : Utf8.Fault)
  deriving DecidableEq

namespace ServiceMessage

def opening : String := "##octopus["

def encoded (value : String) : List Char := Base64.encode (Utf8.encode value)

def attributeText (e : String × String) : List Char :=
  ' ' :: e.1.toList ++ ['=', '"'] ++ encoded e.2 ++ ['"']

def text (m : ServiceMessage) : String :=
  String.ofList (opening.toList ++ m.name.toList ++ m.attributes.flatMap attributeText ++ [']'])

def withAttribute (m : ServiceMessage) (key value : String) : ServiceMessage :=
  { m with attributes := m.attributes ++ [(key, value)] }

def setVariable (name value : String) : ServiceMessage :=
  ⟨"setVariable", [("name", name), ("value", value)]⟩

/-- The first attribute under a key counts. -/
def get? (m : ServiceMessage) (key : String) : Option String := m.attributes.lookup key

/-- The attributes as a table: the last one under a key counts. -/
def table (m : ServiceMessage) : Table String := Table.ofList m.attributes

def value (code : List Char) : Except MessageFault String := do
  let octets ← (Base64.decode (Utf8.encode (String.ofList code))).mapError .notBase64
  (Utf8.decode octets).mapError .notUtf8

def attributesOf (s : List Char) : Except MessageFault (List (String × String)) :=
  if (Text.trimStart s).isEmpty then .ok []
  else
    match _hk : Text.cut ['=', '"'] (Text.trimStart s) with
    | none => .error .noAttribute
    | some (key, afterKey) =>
        match _hv : Text.cut ['"'] afterKey with
        | none => .error .openValue
        | some (code, rest) => do
            let v ← value code
            return (String.ofList (Text.trim key), v) :: (← attributesOf rest)
termination_by s.length
decreasing_by
  have := Text.length_lt_of_cut _hk
  have := Text.length_le_of_cut _hv
  have := Text.length_trimStart_le s
  omega

def read (line : String) : Except MessageFault ServiceMessage := do
  let body ← match (Text.dropStart? opening.toList (Text.trim line.toList)).bind
      (Text.dropFinish? [']']) with
    | some body => pure body
    | none => throw .noEnvelope
  let (name, rest) := (Text.cut [' '] body).getD (body, [])
  if name.isEmpty then throw .noName
  return ⟨String.ofList name, ← attributesOf rest⟩

end ServiceMessage

def MessageFault.error (line : String) (f : MessageFault) : Error :=
  let malformed (reason : String) : Error :=
    .invalidContext s!"malformed service message '{line}': {reason}"
  match f with
  | .noEnvelope => malformed "missing ##octopus[...] envelope"
  | .noName => malformed "missing message name"
  | .noAttribute => malformed "expected key=\"value\""
  | .openValue => malformed "unterminated value"
  | .notBase64 f => .base64 f
  | .notUtf8 f => malformed s!"value is not UTF-8: {f.message}"

def ServiceMessage.parse (line : String) : Except Error ServiceMessage :=
  (ServiceMessage.read line).mapError (·.error line)

end WebAppTargets
