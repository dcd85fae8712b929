import WebAppTargets.Text.Alphanumeric
import WebAppTargets.Text.Blank
import WebAppTargets.Text.Guid

namespace WebAppTargets

inductive NameFault where
  | empty (what : String)
  | tooLong (what : String) (limit : Nat)
  | hostCharacters (what name : String)
  | hyphenAtEnd (what name : String)
  | groupCharacters (name : String)
  | periodAtEnd (name : String)
  | notGuid (id : String) (fault : Guid.Fault)
  deriving DecidableEq

def NameFault.message : NameFault → String
  | .empty what => s!"{what} name cannot be empty"
  | .tooLong what n => s!"{what} name exceeds maximum length of {n} characters"
  | .hostCharacters what name =>
      s!"{what} name '{name}' may only contain letters, digits, and hyphens"
  | .hyphenAtEnd what name => s!"{what} name '{name}' cannot start or end with a hyphen"
  | .groupCharacters name => s!"resource group name '{name}' contains invalid characters"
  | .periodAtEnd name => s!"resource group name '{name}' cannot end with a period"
  | .notGuid id f => s!"subscription id '{id}' is not a GUID: {f.message}"

namespace Naming

def isHostCharacter (c : Char) : Bool := c.isAlphanum || c == '-'

/-- The rule of web apps and slots, which become part of a host name: up to `limit` octets. -/
def checkHost (what : String) (limit : Nat) (name : String) : Except NameFault Unit :=
  let s := name.toList
  if s.isEmpty then .error (.empty what)
  else if limit < Text.utf8Length s then .error (.tooLong what limit)
  else if !s.all isHostCharacter then .error (.hostCharacters what name)
  else if s.head? == some '-' || s.getLast? == some '-' then .error (.hyphenAtEnd what name)
  else .ok ()

def checkWebApp (name : String) : Except NameFault Unit := checkHost "web app" 60 name

def checkSlot (name : String) : Except NameFault Unit := checkHost "slot" 59 name

def isGroupCharacter (c : Char) : Bool :=
  Text.isAlphanumeric c || c == '_' || c == '-' || c == '.' || c == '(' || c == ')'

def checkResourceGroup (name : String) : Except NameFault Unit :=
  let s := name.toList
  if s.isEmpty then .error (.empty "resource group")
  else if 90 < s.length then .error (.tooLong "resource group" 90)
  else if !s.all isGroupCharacter then .error (.groupCharacters name)
  else if s.getLast? == some '.' then .error (.periodAtEnd name)
  else .ok ()

/-- White space around the id does not count. -/
def checkSubscription (id : String) : Except NameFault Unit :=
  (Guid.check (Text.trim id.toList)).mapError (.notGuid id)

end Naming

end WebAppTargets
