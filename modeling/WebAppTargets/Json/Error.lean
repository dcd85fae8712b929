import WebAppTargets.Json.Value
import WebAppTargets.Text.Quoted

namespace WebAppTargets.Json

inductive Fault where
  | eof
  | malformed
  deriving DecidableEq

def Fault.message : Fault → String
  | .eof => "eof"
  | .malformed => "syntax"

inductive Found where
  | null
  | bool (b : Bool)
  | number (n : Number)
  | string (s : String)
  | sequence
  | map
  deriving DecidableEq

def Found.message : Found → String
  | .null => "null"
  | .bool b => s!"boolean `{b}`"
  | .number (.int n) => s!"integer `{n}`"
  | .number (.float x) => s!"floating point `{x.text}`"
  | .string s => s!"string {Text.quoted s}"
  | .sequence => "sequence"
  | .map => "map"

inductive Error where
  | text (f : Fault)
  | missing (field : String)
  | duplicate (field : String)
  | mismatch (found : Found) (expected : String)
  | length (found : Nat) (expected : String)
  | variant (found : String) (known : List String)
  | refused (reason : String)
  deriving DecidableEq

def Error.message : Error → String
  | .text f => f.message
  | .missing f => s!"missing field `{f}`"
  | .duplicate f => s!"duplicate field `{f}`"
  | .mismatch x e => s!"invalid type: {x.message}, expected {e}"
  | .length n e => s!"invalid length {n}, expected {e}"
  | .variant v known =>
      let names := ", ".intercalate (known.map fun k => s!"`{k}`")
      s!"unknown variant `{v}`, expected one of {names}"
  | .refused reason => reason

end WebAppTargets.Json
