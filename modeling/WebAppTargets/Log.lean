import WebAppTargets.ServiceMessage
import WebAppTargets.Trace

namespace WebAppTargets

inductive Entry where
  | line (level : Level) (text : String)
  | message (m : ServiceMessage)
  deriving DecidableEq

abbrev Log := List Entry

namespace Log

def output (log : Log) : List String :=
  log.filterMap fun
    | .line .error _ => none
    | .line _ s => some s
    | .message m => some m.text

def errors (log : Log) : List String :=
  log.filterMap fun
    | .line .error s => some s
    | _ => none

def messages (log : Log) : List ServiceMessage :=
  log.filterMap fun
    | .message m => some m
    | _ => none

def printed (log : Log) : String := String.join (log.messages.map fun m => m.text ++ "\n")

def events (log : Log) : Trace :=
  log.filterMap fun
    | .line level s => some ⟨level, s, []⟩
    | .message _ => none

end Log

end WebAppTargets
