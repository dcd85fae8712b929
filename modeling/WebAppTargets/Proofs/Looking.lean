import Mathlib.Order.Defs.Unbundled
import WebAppTargets.Client.Registry
import WebAppTargets.Proofs.MemoryRun
import WebAppTargets.Proofs.Parts

namespace WebAppTargets

variable {σ α β : Type}

namespace Action

/-- The action takes the client to a related one and writes no line. -/
def Looks (C : σ → σ → Prop) (x : Action σ α) : Prop :=
  ∀ w, C w.client (x w).2.client ∧ (x w).2.log = w.log

namespace Looks

variable {C : σ → σ → Prop} [IsPreorder σ C] {x : Action σ α}

theorem bind {f : α → Action σ β} (hx : Looks C x) (hf : ∀ a, Looks C (f a)) :
    Looks C (x >>= f) := by
  intro w
  obtain ⟨hc, hl⟩ := hx w
  cases hr : (x w).1 with
  | error e =>
      rw [bind_error (Prod.ext hr rfl)]
      exact ⟨hc, hl⟩
  | ok a =>
      rw [bind_ok (Prod.ext hr rfl)]
      obtain ⟨hc', hl'⟩ := hf a (x w).2
      exact ⟨trans_of C hc hc', hl'.trans hl⟩

theorem of_unchanged (h : ∀ w, (x w).2.client = w.client ∧ (x w).2.log = w.log) : Looks C x := by
  intro w
  rw [(h w).1]
  exact ⟨refl_of C _, (h w).2⟩

theorem value (a : α) : Looks C (pure a : Action σ α) := of_unchanged fun _ => ⟨rfl, rfl⟩

theorem ofExcept (r : Except Error α) : Looks C (Action.ofExcept r : Action σ α) :=
  of_unchanged fun _ => ⟨rfl, rfl⟩

theorem fail (e : Error) : Looks C (Action.fail e : Action σ α) := of_unchanged fun _ => ⟨rfl, rfl⟩

theorem emit (t : Trace) : Looks C (Action.emit t : Action σ Unit) := of_unchanged fun _ => ⟨rfl, rfl⟩

theorem composes : Composes (fun _ x => Looks C x : ∀ α, Action σ α → Prop) := ⟨value, emit, bind⟩

theorem client : Looks C (Action.client : Action σ σ) := of_unchanged fun _ => ⟨rfl, rfl⟩

omit [IsPreorder σ C] in
theorem modify {f : σ → σ} (h : ∀ c, C c (f c)) : Looks C (Action.modify f) := fun w => ⟨h w.client, rfl⟩

omit [IsPreorder σ C] in
theorem inContext (f : Error → Error) (hx : Looks C x) : Looks C (Action.inContext f x) := hx

omit [IsPreorder σ C] in
theorem attempt (hx : Looks C x) : Looks C (Action.attempt x) := hx

end Looks

end Action

open WebAppTargets.Action

def Call.IsLook : Call → Prop
  | .init | .listWebApps _ | .listSlots _ _ | .close => True
  | _ => False

structure Client.Looks (C : σ → σ → Prop) [Client σ] : Prop where
  init : Action.Looks C Client.init
  listWebApps (resourceGroup : String) : Action.Looks C (Client.listWebApps resourceGroup)
  listSlots (resourceGroup webApp : String) : Action.Looks C (Client.listSlots resourceGroup webApp)
  close : Action.Looks C Client.close

namespace Memory

def Looked (m m' : Memory) : Prop := ∃ l, (∀ k ∈ l, k.IsLook) ∧ m' = m.after m.contents l

instance : IsPreorder Memory Looked where
  refl m := ⟨[], by simp, m.after_contents.symm⟩
  trans := by
    rintro m _ _ ⟨k, hk, rfl⟩ ⟨l, hl, rfl⟩
    exact ⟨k ++ l, List.forall_mem_append.2 ⟨hk, hl⟩, by rw [contents_after, after_after]⟩

theorem call_looks {C : Memory → Memory → Prop} [IsPreorder Memory C] {k : Call}
    (hk : ∀ m, C m (m.after m.contents [k])) (fault : Memory → Option Error) :
    Action.Looks C (call k fault) := by
  refine .bind (.modify hk) fun _ => .bind .client fun m => ?_
  cases fault m with
  | none => exact .value ()
  | some e => exact .fail _

theorem looked_of_isLook {k : Call} (hk : k.IsLook) (m : Memory) : m.Looked (m.after m.contents [k]) :=
  ⟨[k], by simpa using hk, rfl⟩

theorem looks : Client.Looks Looked where
  init := by
    refine .bind (.modify (looked_of_isLook (k := .init) trivial)) fun _ => .bind .client fun m => ?_
    cases m.initError with
    | none => exact .value ()
    | some e => exact .fail e
  listWebApps rg :=
    .bind (call_looks (looked_of_isLook (k := .listWebApps rg) trivial) _) fun _ =>
      .bind .client fun _ => .value _
  listSlots rg app :=
    .bind (call_looks (looked_of_isLook (k := .listSlots rg app) trivial) _) fun _ =>
      .bind .client fun _ => .value _
  close := call_looks (looked_of_isLook (k := .close) trivial) _

end Memory

namespace Rest

/-- The service has received nothing but further requests to read. -/
def Looked (r r' : Rest) : Prop :=
  ∃ l, (∀ q ∈ l, q.method = .get) ∧ r'.network.received = r.network.received ++ l

instance : IsPreorder Rest Looked where
  refl _ := ⟨[], by simp, by simp⟩
  trans := by
    rintro r r' r'' ⟨k, hk, hr⟩ ⟨l, hl, hr'⟩
    exact ⟨k ++ l, List.forall_mem_append.2 ⟨hk, hl⟩, by rw [hr', hr, List.append_assoc]⟩

theorem received_send (n : Network) (q : Request) :
    (n.send q).2.received = n.received ∨ (n.send q).2.received = n.received ++ [q] := by
  unfold Network.send
  split
  · exact .inl rfl
  · split
    · exact .inr rfl
    · exact .inl rfl

theorem exchange_looks (url : String) (body : Option Json.Value) :
    Action.Looks Looked (exchange .get url body) := by
  refine .bind (.emit _) fun _ w => ?_
  change Looked w.client ((if w.client.isOpen then _ else _ : Action Rest Body) w).2.client ∧
    ((if w.client.isOpen then _ else _ : Action Rest Body) w).2.log = w.log
  split
  · refine ⟨?_, rfl⟩
    rcases received_send w.client.network ⟨.get, url, w.client.token, body⟩ with h | h
    · exact ⟨[], by simp, by rw [List.append_nil]; exact h⟩
    · exact ⟨[_], by simp, h⟩
  · exact ⟨refl_of Looked _, rfl⟩

variable {d : Json.Decoder α}

theorem request_looks (url : String) : Action.Looks Looked (request d .get url) :=
  .bind (exchange_looks url none) fun _ => .ofExcept _

theorem pages_looks (n : Nat) (url : String) : Action.Looks Looked (pages n url) := by
  induction n generalizing url with
  | zero => exact .bind (request_looks url) fun _ => .value _
  | succ n ih =>
      refine .bind (request_looks url) fun page => ?_
      cases page.next with
      | none => exact .value _
      | some next => exact .bind (ih next) fun _ => .value _

theorem listing_looks (url : String) : Action.Looks Looked (listing url) :=
  .bind .client fun _ => pages_looks _ url

theorem locate_looks (address : Rest → Except Error String) (part : String) :
    Action.Looks Looked (locate address part) :=
  .bind .client fun _ => .bind (.ofExcept _) fun _ => .value _

theorem looks : Client.Looks Looked where
  init := by
    have hset {f : Rest → Rest} (h : ∀ r, (f r).network = r.network) :
        Action.Looks Looked (Action.modify f) := .modify fun r => ⟨[], by simp, by simp [h]⟩
    refine .bind .client fun r => .bind (.ofExcept _) fun _ => ?_
    cases r.baseOverride with
    | some base =>
        dsimp only
        split
        · exact .bind (.fail _) fun _ => hset fun _ => rfl
        · exact hset fun _ => rfl
    | none =>
        dsimp only
        split
        · exact .bind (.fail _) fun _ => .bind (.emit _) fun _ => hset fun _ => rfl
        · exact .bind (.emit _) fun _ => hset fun _ => rfl
  listWebApps _ :=
    .bind (locate_looks _ _) fun _ => .bind (.inContext _ (listing_looks _)) fun _ => .value _
  listSlots _ _ :=
    .bind (locate_looks _ _) fun _ => .bind (.inContext _ (listing_looks _)) fun _ => .value _
  close := .modify fun r => ⟨[], by simp, by simp⟩

end Rest

namespace AnyClient

inductive Looked : AnyClient → AnyClient → Prop
  | memory {m m' : Memory} (h : m.Looked m') : Looked (.memory m) (.memory m')
  | rest {r r' : Rest} (h : r.Looked r') : Looked (.rest r) (.rest r')

theorem either_looks {x : Action Memory α} {y : Action Rest α} (hx : Action.Looks Memory.Looked x)
    (hy : Action.Looks Rest.Looked y) : Action.Looks Looked (either x y) := by
  rintro ⟨c, log, trace⟩
  cases c with
  | memory m =>
      obtain ⟨hm, hl⟩ := hx ⟨m, log, trace⟩
      exact ⟨.memory hm, hl⟩
  | rest r =>
      obtain ⟨hr, hl⟩ := hy ⟨r, log, trace⟩
      exact ⟨.rest hr, hl⟩

theorem looks : Client.Looks Looked where
  init := either_looks Memory.looks.init Rest.looks.init
  listWebApps _ := either_looks (Memory.looks.listWebApps _) (Rest.looks.listWebApps _)
  listSlots _ _ := either_looks (Memory.looks.listSlots _ _) (Rest.looks.listSlots _ _)
  close := either_looks Memory.looks.close Rest.looks.close

instance : IsPreorder AnyClient Looked where
  refl
    | .memory m => .memory (refl_of Memory.Looked m)
    | .rest r => .rest (refl_of Rest.Looked r)
  trans := by
    rintro _ _ _ (h | h) h'
    · cases h' with
      | memory h' => exact .memory (trans_of Memory.Looked h h')
    · cases h' with
      | rest h' => exact .rest (trans_of Rest.Looked h h')

end AnyClient

end WebAppTargets
