import WebAppTargets.Log

namespace WebAppTargets

structure World (σ : Type) where
  client : σ
  log : Log := []
  trace : Trace := []

def Action (σ α : Type) : Type := World σ → Except Error α × World σ

variable {σ τ α β : Type}

namespace Action

instance : Monad (Action σ) where
  pure a := fun w => (.ok a, w)
  bind x f := fun w =>
    match x w with
    | (.ok a, w) => f a w
    | (.error e, w) => (.error e, w)

def fail (e : Error) : Action σ α := fun w => (.error e, w)

def ofExcept (r : Except Error α) : Action σ α := fun w => (r, w)

def client : Action σ σ := fun w => (.ok w.client, w)

def modify (f : σ → σ) : Action σ Unit := fun w => (.ok (), { w with client := f w.client })

def write (level : Level) (text : String) : Action σ Unit := fun w =>
  (.ok (), { w with log := w.log ++ [.line level text] })

def announce (m : ServiceMessage) : Action σ Unit := fun w =>
  (.ok (), { w with log := w.log ++ [.message m] })

def emit (events : Trace) : Action σ Unit := fun w => (.ok (), { w with trace := w.trace ++ events })

def attempt (x : Action σ α) : Action σ (Except Error α) := fun w =>
  let (r, w) := x w
  (.ok r, w)

def inContext (f : Error → Error) (x : Action σ α) : Action σ α := fun w =>
  let (r, w) := x w
  (r.mapError f, w)

def onPart (part : τ) (whole : τ → σ) (x : Action τ α) : Action σ α := fun w =>
  let (r, v) := x { client := part, log := w.log, trace := w.trace }
  (r, { client := whole v.client, log := v.log, trace := v.trace })

@[simp] theorem pure_apply (a : α) (w : World σ) : (pure a : Action σ α) w = (.ok a, w) := rfl

theorem bind_apply (x : Action σ α) (f : α → Action σ β) (w : World σ) :
    (x >>= f) w = match x w with
      | (.ok a, w) => f a w
      | (.error e, w) => (.error e, w) := rfl

@[simp] theorem fail_apply (e : Error) (w : World σ) : (fail e : Action σ α) w = (.error e, w) := rfl

theorem bind_ok {x : Action σ α} {f : α → Action σ β} {w v : World σ} {a : α}
    (h : x w = (.ok a, v)) : (x >>= f) w = f a v := by
  simp [bind_apply, h]

theorem bind_error {x : Action σ α} {f : α → Action σ β} {w v : World σ} {e : Error}
    (h : x w = (.error e, v)) : (x >>= f) w = (.error e, v) := by
  simp [bind_apply, h]

end Action

end WebAppTargets
