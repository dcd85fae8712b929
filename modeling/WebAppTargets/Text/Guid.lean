import WebAppTargets.Text.Hex
import WebAppTargets.Text.Split

namespace WebAppTargets.Guid

inductive Fault where
  | length (found : Nat)
  | character (found : Char) (index : Nat)
  | groupCount (found : Nat)
  | groupLength (group expected found : Nat)
  deriving DecidableEq

def Fault.message : Fault → String
  | .length n => s!"invalid length: found {n}"
  | .character c i => s!"invalid character: found `{c}` at {i}"
  | .groupCount n => s!"invalid group count: expected 5, found {n}"
  | .groupLength g e n => s!"invalid group length in group {g}: expected {e}, found {n}"

def urn : List Char := "urn:uuid:".toList

def insideBraces? (s : List Char) : Option (List Char) :=
  match s with
  | '{' :: r => Text.dropFinish? ['}'] r
  | _ => none

def afterUrn? (s : List Char) : Option (List Char) :=
  if (s.take urn.length).map Char.toLower = urn then some (s.drop urn.length) else none

/-- The text without its wrapper, and the length of the wrapper's beginning. -/
def unwrap (s : List Char) : Option (List Char × Nat) :=
  match insideBraces? s with
  | some r => some (r, 1)
  | none => (afterUrn? s).map (·, urn.length)

/-- Positions of the hyphens from position `i` on, or the first character that fits nowhere. -/
def hyphens (i : Nat) : List Char → Except Fault (List Nat)
  | [] => .ok []
  | c :: r =>
      if c = '-' then (hyphens (i + 1) r).map (i :: ·)
      else if Text.isHex c then hyphens (i + 1) r
      else .error (.character c i)

/-- The first of the groups before the last one that does not end where it should. -/
def groupFault (g : Nat) : List (Nat × Nat × Nat) → Option Fault
  | [] => none
  | (start, size, hyphen) :: r =>
      if hyphen = start + size then groupFault (g + 1) r
      else some (.groupLength g size (hyphen - start))

/-- Why a text of `size` octets holds no identifier in its body, which starts at `start`. Only a
text without wrapper can be simple, that is without hyphens. -/
def diagnose (size start : Nat) (body : List Char) (isSimple : Bool) : Fault :=
  match hyphens 0 body with
  | .error (.character c i) => .character c (start + i)
  | .error f => f
  | .ok marks =>
      if marks.isEmpty && isSimple then .length size
      else if marks.length != 4 then .groupCount (marks.length + 1)
      else
        (groupFault 0 ([0, 9, 14, 19].zip ([8, 4, 4, 4].zip marks))).getD
          (.groupLength 4 12 (size - 24))

def isGrouped (s : List Char) : Bool :=
  match hyphens 0 s with
  | .ok marks => marks == [8, 13, 18, 23] && s.length == 36
  | .error _ => false

/-- The part of a text that its length marks as written in groups. -/
def grouped? (s : List Char) : Option (List Char) :=
  match Text.utf8Length s with
  | 36 => some s
  | 38 => insideBraces? s
  | 45 => afterUrn? s
  | _ => none

def check (s : List Char) : Except Fault Unit :=
  let size := Text.utf8Length s
  if size = 0 || 45 < size then .error (.length size)
  else if size = 32 && s.all Text.isHex then .ok ()
  else
    match grouped? s, unwrap s with
    | some r, _ =>
        if isGrouped r then .ok () else .error (diagnose (Text.utf8Length r) 0 r false)
    | none, some (r, start) => .error (diagnose size start r false)
    | none, none => .error (diagnose size 0 s true)

end WebAppTargets.Guid
