import WebAppTargets.Account

namespace WebAppTargets

inductive ClientKind where
  | memory
  | rest
  deriving DecidableEq

def ClientKind.text : ClientKind → String
  | .memory => "mock"
  | .rest => "arm"

structure Config where
  kind : ClientKind := .memory
  account : Account := {}
  options : Table String := .empty

namespace Config

def withAccount (c : Config) (a : Account) : Config := { c with account := a }

def withOption (c : Config) (name value : String) : Config :=
  { c with options := c.options.insert name value }

def option? (c : Config) (name : String) : Option String := c.options.get? name

end Config

end WebAppTargets
