import WebAppTargets.Json.Reader

namespace WebAppTargets.Json

variable {α : Type}

abbrev Decoder (α : Type) := Node → Except Error α

def faulted (r : Except Fault α) : Except Error α := r.mapError .text

/-- The error for a value of another kind than expected; scalars are read before they are judged. -/
def mismatch (expected : String) : Node → Error
  | .null => .mismatch .null expected
  | .bool b => .mismatch (.bool b) expected
  | .number (some n) => .mismatch (.number n) expected
  | .string (some s) => .mismatch (.string s) expected
  | .array _ => .mismatch .sequence expected
  | .object _ => .mismatch .map expected
  | .number none => .text .malformed
  | .string none => .text .malformed
  | .absent f => .text f
  | .cutString kept _ => .text kept
  | .cutWord kept _ => .text kept

namespace Decoder

def described (expected : String) : Decoder String
  | .string (some s) => .ok s
  | n => .error (mismatch expected n)

def string : Decoder String := described "a string"

def bool : Decoder Bool
  | .bool b => .ok b
  | n => .error (mismatch "a boolean" n)

/-- `null` is no value. -/
def option (d : Decoder α) : Decoder (Option α)
  | .null => .ok none
  | n => (d n).map some

def ofItems (d : Decoder α) : Items → Except Error (List α)
  | .closed => .ok []
  | .cut f => .error (.text f)
  | .item v rest => do
      let a ← d v
      return a :: (← ofItems d rest)

def list (d : Decoder α) : Decoder (List α)
  | .array items => ofItems d items
  | n => .error (mismatch "a sequence" n)

def names : Decoder NameSet := fun n => (list string n).map NameSet.ofList

def ofMembers (d : Decoder α) : Members → Except Error (List (String × α))
  | .closed => .ok []
  | .cut f => .error (.text f)
  | .member k v rest => do
      let name ← faulted k.key
      let a ← d v
      return (name, a) :: (← ofMembers d rest)

/-- A map: the last value of a repeated key counts. -/
def table (d : Decoder α) : Decoder (Table α)
  | .object members => (ofMembers d members).map Table.ofList
  | n => .error (mismatch "a map" n)

/-- An object kept as it is, inside `outer` other containers. -/
def object (outer : Nat) : Decoder (Table Value)
  | .object members => (faulted (members.fields (maxDepth - outer - 1))).map Table.ofList
  | n => .error (mismatch "a map" n)

/-- One of some names, as a string or as the key of a `null`. -/
def variant (known : List String) : Decoder String
  | .string (some s) => if s ∈ known then .ok s else .error (.variant s known)
  | .string none => .error (.text .malformed)
  | .cutString kept _ => .error (.text kept)
  | .absent f => .error (.text f)
  | .object (.cut f) => .error (.text f)
  | .object (.member k v rest) => do
      let s ← faulted k.key
      if s ∉ known then throw (.variant s known)
      match v with
      | .null => pure ()
      | v => throw (mismatch "unit" v)
      match rest with
      | .closed => return s
      | .cut f => throw (.text f)
      | .member .. => throw (.text .malformed)
  | _ => .error (.text .malformed)

end Decoder

/-- Where a reading comes from: a text is read on the go, a tree is there already. -/
inductive Source where
  | text
  | tree

structure Field where
  name : String
  aliases : List String
  required : Bool
  check : Node → Except Error Unit

namespace Field

def mandatory (name : String) (aliases : List String) (d : Decoder α) : Field :=
  ⟨name, aliases, true, fun n => (d n).map fun _ => ()⟩

def defaulted (name : String) (aliases : List String) (d : Decoder α) : Field :=
  ⟨name, aliases, false, fun n => (d n).map fun _ => ()⟩

def spells (f : Field) (key : String) : Bool := f.name == key || f.aliases.contains key

end Field

abbrev Record := List (String × Node)

namespace Record

def find (r : Record) (name : String) : Option Node := r.lookup name

def get (r : Record) (name : String) (d : Decoder α) : Except Error α :=
  match r.find name with
  | some v => d v
  | none => .error (.missing name)

def getD (r : Record) (name : String) (d : Decoder α) (default : α) : Except Error α :=
  match r.find name with
  | some v => d v
  | none => .ok default

end Record

def Items.count : Items → Nat
  | .item _ rest => rest.count + 1
  | _ => 0

/-- Collects the fields of an object; unknown members are skipped, repeated ones refused. -/
def Members.collect (fields : List Field) (done : Record) : Members → Except Error Record
  | .closed => .ok done
  | .cut f => .error (.text f)
  | .member k v rest => do
      let key ← faulted k.key
      match fields.find? (·.spells key) with
      | some f =>
          if (done.find f.name).isSome then throw (.duplicate f.name)
          f.check v
          rest.collect fields ((f.name, v) :: done)
      | none =>
          faulted v.skip
          rest.collect fields done

/-- Gives the items of an array to the fields in order, from the one at `position` on. -/
def Items.place (tooFew : Nat → Error) (tooMany : Error) (position : Nat) :
    List Field → Items → Except Error Record
  | [], .closed => .ok []
  | [], .cut f => .error (.text f)
  | [], .item _ _ => .error tooMany
  | f :: fs, .closed =>
      if f.required then .error (tooFew position)
      else Items.place tooFew tooMany (position + 1) fs .closed
  | _ :: _, .cut f => .error (.text f)
  | f :: fs, .item v rest => do
      f.check v
      return (f.name, v) :: (← Items.place tooFew tooMany (position + 1) fs rest)

/-- Reads the record called `name`. Missing fields are noticed in the order of the fields. -/
def Decoder.record (source : Source) (name : String) (fields : List Field) : Decoder Record
  | .object members => do
      let found ← members.collect fields []
      match fields.find? fun f => f.required && (found.find f.name).isNone with
      | some f => throw (.missing f.name)
      | none => return found
  | .array items =>
      let tooFew (n : Nat) : Error := .length n s!"struct {name} with {fields.length} elements"
      let tooMany : Error := match source with
        | .text => .text .malformed
        | .tree => .length items.count "fewer elements in array"
      items.place tooFew tooMany 0 fields
  | n => .error (mismatch s!"struct {name}" n)

end WebAppTargets.Json
