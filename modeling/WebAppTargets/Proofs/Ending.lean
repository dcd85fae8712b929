import WebAppTargets.Action

namespace WebAppTargets

namespace Action

variable {σ α β : Type}

/-- On the client `c` the action gives `r` and leaves the client as `c'`, whatever was told before. -/
def Ends (c : σ) (x : Action σ α) (r : Except Error α) (c' : σ) : Prop :=
  ∀ w : World σ, w.client = c → (x w).1 = r ∧ (x w).2.client = c'

namespace Ends

variable {c c' c'' : σ} {x : Action σ α} {f : α → Action σ β} {a : α} {r : Except Error β}

theorem bind (hx : Ends c x (.ok a) c') (hf : Ends c' (f a) r c'') : Ends c (x >>= f) r c'' := by
  intro w hw
  obtain ⟨hr, hc⟩ := hx w hw
  rw [bind_ok (Prod.ext hr rfl)]
  exact hf (x w).2 hc

theorem bind_error {e : Error} (hx : Ends c x (.error e) c') : Ends c (x >>= f) (.error e) c' := by
  intro w hw
  obtain ⟨hr, hc⟩ := hx w hw
  rw [Action.bind_error (Prod.ext hr rfl)]
  exact ⟨rfl, hc⟩

theorem bind_quiet {q : Except Error α} (hx : Ends c x q c') (hf : ∀ a, ∃ r, Ends c' (f a) r c') :
    ∃ r, Ends c (x >>= f) r c' := by
  cases q with
  | error e => exact ⟨_, hx.bind_error⟩
  | ok a =>
      obtain ⟨r, hr⟩ := hf a
      exact ⟨r, hx.bind hr⟩

theorem value (c : σ) (a : α) : Ends c (pure a) (.ok a) c := fun _ hw => ⟨rfl, hw⟩

theorem ofExcept (c : σ) (r : Except Error α) : Ends c (Action.ofExcept r) r c := fun _ hw => ⟨rfl, hw⟩

theorem fail (c : σ) (e : Error) : Ends c (Action.fail e : Action σ α) (.error e) c :=
  fun _ hw => ⟨rfl, hw⟩

theorem write (c : σ) (level : Level) (text : String) : Ends c (Action.write level text) (.ok ()) c :=
  fun _ hw => ⟨rfl, hw⟩

theorem emit (c : σ) (t : Trace) : Ends c (Action.emit t) (.ok ()) c := fun _ hw => ⟨rfl, hw⟩

theorem client (c : σ) : Ends c Action.client (.ok c) c := fun _ hw => ⟨congrArg _ hw, hw⟩

theorem modify (c : σ) (f : σ → σ) : Ends c (Action.modify f) (.ok ()) (f c) :=
  fun _ hw => ⟨rfl, congrArg f hw⟩

theorem inContext {q : Except Error α} (hx : Ends c x q c') (g : Error → Error) :
    Ends c (Action.inContext g x) (q.mapError g) c' := by
  intro w hw
  obtain ⟨hr, hc⟩ := hx w hw
  exact ⟨congrArg (Except.mapError g) hr, hc⟩

theorem attempt {q : Except Error α} (hx : Ends c x q c') : Ends c (Action.attempt x) (.ok q) c' := by
  intro w hw
  obtain ⟨hr, hc⟩ := hx w hw
  exact ⟨congrArg Except.ok hr, hc⟩

end Ends

end Action

end WebAppTargets
