namespace WebAppTargets

inductive Level where
  | debug | info | warn | error
  deriving DecidableEq

structure Event where
  level : Level
  message : String
  fields : List (String × String)
  deriving DecidableEq

abbrev Trace := List Event

def Level.text : Level → String
  | .debug => "DEBUG"
  | .info => "INFO"
  | .warn => "WARN"
  | .error => "ERROR"

end WebAppTargets
