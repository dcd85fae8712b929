import WebAppTargets.Proofs.Alike

namespace WebAppTargets

open WebAppTargets.Action

def AnyClient.closing (e : Option Error) : AnyClient → AnyClient
  | .memory m => .memory { m with closeError := e }
  | .rest r => .rest r

def Memory.ClosesAs (e : Option Error) (m m' : Memory) : Prop := m' = { m with closeError := e }

def AnyClient.ClosesAs (e : Option Error) (c c' : AnyClient) : Prop := c' = c.closing e

variable {α : Type} {e : Option Error}

namespace Memory

theorem call_alike (k : Call) {fault : Memory → Option Error}
    (h : ∀ m : Memory, fault { m with closeError := e } = fault m) :
    Action.Alike (ClosesAs e) (call k fault) (call k fault) := by
  refine .bind (.modify ?_) fun _ => .bind_client ?_
  · rintro m _ rfl
    rfl
  · rintro m _ rfl
    rw [h]
    cases fault m with
    | none => exact .value ()
    | some d => exact .fail _

theorem init_alike : Action.Alike (ClosesAs e) Client.init Client.init := by
  refine .bind (.modify ?_) fun _ => .bind_client ?_
  · rintro m _ rfl
    rfl
  · rintro m _ rfl
    dsimp only
    cases m.initError with
    | none => exact .value ()
    | some d => exact .fail d

theorem read_alike {f : Memory → α} (h : ∀ m : Memory, f { m with closeError := e } = f m) :
    Action.Alike (ClosesAs e) (do return f (← Action.client)) (do return f (← Action.client)) := by
  refine .bind_client ?_
  rintro m _ rfl
  rw [h]
  exact .value _

theorem set_alike {f : Memory → Memory}
    (h : ∀ m : Memory, f { m with closeError := e } = { f m with closeError := e }) :
    Action.Alike (ClosesAs e) (Action.modify f) (Action.modify f) := by
  refine .modify ?_
  rintro m _ rfl
  exact h m

theorem closing_alike : Client.Alike (ClosesAs e) where
  init := init_alike
  listWebApps _ := .bind (call_alike _ fun _ => rfl) fun _ => read_alike fun _ => rfl
  listSlots _ _ := .bind (call_alike _ fun _ => rfl) fun _ => read_alike fun _ => rfl
  getWebApp _ _ := .bind (call_alike _ fun _ => rfl) fun _ => read_alike fun _ => rfl
  getAppSettings _ := .bind (call_alike _ fun _ => rfl) fun _ => read_alike fun _ => rfl
  putAppSettings _ _ := .bind (call_alike _ fun _ => rfl) fun _ => set_alike fun _ => rfl
  putSticky _ _ := .bind (call_alike _ fun _ => rfl) fun _ => set_alike fun _ => rfl
  getConnections _ := .bind (call_alike _ fun _ => rfl) fun _ => read_alike fun _ => rfl
  putConnections _ _ := .bind (call_alike _ fun _ => rfl) fun _ => set_alike fun _ => rfl

end Memory

namespace AnyClient

theorem closesAs_eq : ClosesAs e = Both (Memory.ClosesAs e) Eq := by
  funext c c'
  apply propext
  constructor
  · rintro rfl
    cases c with
    | memory m => exact .memory rfl
    | rest r => exact .rest rfl
  · rintro (h | h)
    · exact congrArg AnyClient.memory h
    · exact congrArg AnyClient.rest h.symm

theorem closing_alike : Client.Alike (ClosesAs e) :=
  closesAs_eq ▸ alike Memory.closing_alike Client.alike_eq

end AnyClient

end WebAppTargets
