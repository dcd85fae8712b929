import WebAppTargets.Number.Decimal
import WebAppTargets.Table

namespace WebAppTargets.Json

inductive Number where
  | int (n : Int)
  | float (x : Double)
  deriving DecidableEq

def Number.text : Number → String
  | .int n => toString n
  | .float x => x.text

mutual
inductive Value where
  | null
  | bool (b : Bool)
  | number (n : Number)
  | string (s : String)
  | array (items : Values)
  | object (fields : Fields)
  deriving DecidableEq
inductive Values where
  | nil
  | cons (v : Value) (rest : Values)
  deriving DecidableEq
inductive Fields where
  | nil
  | cons (key : String) (v : Value) (rest : Fields)
  deriving DecidableEq
end

instance : Inhabited Value := ⟨.null⟩

def Values.ofList : List Value → Values
  | [] => .nil
  | v :: r => .cons v (ofList r)

def Values.toList : Values → List Value
  | .nil => []
  | .cons v r => v :: r.toList

def Fields.ofList : List (String × Value) → Fields
  | [] => .nil
  | (k, v) :: r => .cons k v (ofList r)

def Fields.toList : Fields → List (String × Value)
  | .nil => []
  | .cons k v r => (k, v) :: r.toList

@[simp] theorem Values.toList_ofList (l : List Value) : (Values.ofList l).toList = l := by
  induction l with
  | nil => rfl
  | cons v r ih => simp [ofList, toList, ih]

@[simp] theorem Fields.toList_ofList (l : List (String × Value)) : (Fields.ofList l).toList = l := by
  induction l with
  | nil => rfl
  | cons e r ih => simp [ofList, toList, ih]

namespace Value

def ofItems (l : List Value) : Value := .array (Values.ofList l)

def ofFields (l : List (String × Value)) : Value := .object (Fields.ofList l)

def ofTable (t : Table Value) : Value := ofFields t.entries

def ofOption : Option String → Value
  | none => .null
  | some s => .string s

end Value

end WebAppTargets.Json
