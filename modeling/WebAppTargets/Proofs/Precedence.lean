import WebAppTargets.Proofs.Outcome
import WebAppTargets.Proofs.Registration

namespace WebAppTargets

namespace Endpoint

def Usable (o : Option String) (s : String) : Prop := o = some s ∧ Text.isBlankText s = false

/-- What the message says under the key is found, and usable. -/
def Leads (lookup : String → Option String) (message : Table String) (key id : String) : Prop :=
  ∃ k, Usable (message.get? key) k ∧ Usable (lookup k) id

section Relations

variable (resolver : Resolver) (message : Table String) (v : Variables)

def Names (account : String) : Prop :=
  Leads resolver.account message "octopusAccountIdOrName" account

def NamesPool (pool : String) : Prop :=
  Leads resolver.pool message "octopusDefaultWorkerPoolIdOrName" pool

/-- The account of the message, and if there is none that of the variable. -/
inductive AccountOf : String → Prop
  | named {account : String} (h : Names resolver message account) : AccountOf account
  | fallback {key account : String} (hnone : ∀ a, ¬Names resolver message a)
      (hkey : v.get? Variable.account = some key) (h : Usable (resolver.account key) account) :
      AccountOf account

/-- The worker pool of the message, and if there is none that of the step, if it has one. -/
inductive PoolOf : Option String → Prop
  | named {pool : String} (h : NamesPool resolver message pool) : PoolOf (some pool)
  | fallback {pool : String} (hnone : ∀ p, ¬NamesPool resolver message p)
      (h : Usable (v.get? Variable.workerPool) pool) : PoolOf (some pool)
  | missing (hnone : ∀ p, ¬NamesPool resolver message p)
      (h : ∀ p, ¬Usable (v.get? Variable.workerPool) p) : PoolOf none

structure Meant (e : Endpoint) : Prop where
  account : AccountOf resolver message v e.account
  resourceGroup : Usable (message.get? "azureResourceGroupName") e.resourceGroup
  webApp : Usable (message.get? "azureWebApp") e.webApp
  slotName : e.slotName = (message.get? "azureWebAppSlot").getD ""
  workerPool : PoolOf resolver message v e.workerPool

/-- Why there is no endpoint: what is missed first. -/
inductive Lacking : Error → Prop
  | account (h : ∀ a, ¬AccountOf resolver message v a) :
      Lacking (.accountNotFound ((v.get? Variable.account).getD ""))
  | resourceGroup {a : String} (ha : AccountOf resolver message v a)
      (h : ∀ s, ¬Usable (message.get? "azureResourceGroupName") s) :
      Lacking (.missingAttribute "azureResourceGroupName")
  | webApp {a g : String} (ha : AccountOf resolver message v a)
      (hg : Usable (message.get? "azureResourceGroupName") g)
      (h : ∀ s, ¬Usable (message.get? "azureWebApp") s) : Lacking (.missingAttribute "azureWebApp")

end Relations

def accountKeys (asked : List Query) : List String :=
  asked.filterMap fun
    | .account key => some key
    | .pool _ => none

section Usable

variable {o : Option String} {s : String}

theorem usable_eq_some_iff : usable o = some s ↔ Usable o s := by
  simp [usable, Usable, Option.filter_eq_some_iff]

theorem usable_eq_none_iff : usable o = none ↔ ∀ s, ¬Usable o s := by
  simp only [Option.eq_none_iff_forall_ne_some, ne_eq, usable_eq_some_iff]

theorem ask_eq_some_iff {lookup : String → Option String} {query : String → Query}
    {key : Option String} {id : String} :
    (ask lookup query key).1 = some id ↔ ∃ k, key = some k ∧ Usable (lookup k) id := by
  cases key with
  | none => simp [ask]
  | some k => simp [ask, usable_eq_some_iff]

theorem ask_valueOf_eq_some_iff {lookup : String → Option String} {query : String → Query}
    {message : Table String} {key id : String} :
    (ask lookup query (valueOf message key)).1 = some id ↔ Leads lookup message key id := by
  simp only [ask_eq_some_iff, valueOf, usable_eq_some_iff, Leads]

theorem Leads.unique {lookup : String → Option String} {message : Table String} {key id id' : String}
    (h : Leads lookup message key id) (h' : Leads lookup message key id') : id = id' := by
  obtain ⟨k, hk, hid⟩ := h
  obtain ⟨k', hk', hid'⟩ := h'
  obtain rfl := Option.some.inj (hk.1.symm.trans hk'.1)
  exact Option.some.inj (hid.1.symm.trans hid'.1)

end Usable

section Asked

variable {lookup : String → Option String} {key : Option String}

theorem accountKeys_append (asked asked' : List Query) :
    accountKeys (asked ++ asked') = accountKeys asked ++ accountKeys asked' :=
  List.filterMap_append

theorem accountKeys_ask_account : accountKeys (ask lookup .account key).2 = key.toList := by
  cases key <;> rfl

theorem accountKeys_ask_pool : accountKeys (ask lookup .pool key).2 = [] := by
  cases key <;> rfl

end Asked

section Parts

variable {resolver : Resolver} {message : Table String} {v : Variables}

theorem findAccount_of_names {account : String} (h : Names resolver message account) :
    findAccount resolver message v = (some account,
      (ask resolver.account .account (valueOf message "octopusAccountIdOrName")).2) := by
  simp only [findAccount, ask_valueOf_eq_some_iff.2 h]

theorem findAccount_of_not_names (h : ∀ a, ¬Names resolver message a) :
    findAccount resolver message v =
      ((ask resolver.account .account (v.get? Variable.account)).1,
        (ask resolver.account .account (valueOf message "octopusAccountIdOrName")).2 ++
          (ask resolver.account .account (v.get? Variable.account)).2) := by
  have hnone : (ask resolver.account .account (valueOf message "octopusAccountIdOrName")).1 = none :=
    Option.eq_none_iff_forall_ne_some.2 fun a ha => h a (ask_valueOf_eq_some_iff.1 ha)
  simp only [findAccount, hnone]

theorem findAccount_eq_some_iff {account : String} :
    (findAccount resolver message v).1 = some account ↔ AccountOf resolver message v account := by
  by_cases hnames : ∃ a, Names resolver message a
  · obtain ⟨a, ha⟩ := hnames
    rw [findAccount_of_names ha]
    constructor
    · rintro ⟨⟩
      exact .named ha
    · intro h
      cases h with
      | named h => rw [ha.unique h]
      | fallback hnone => exact absurd ha (hnone a)
  · rw [not_exists] at hnames
    rw [findAccount_of_not_names hnames, ask_eq_some_iff]
    constructor
    · rintro ⟨key, hkey, h⟩
      exact .fallback hnames hkey h
    · intro h
      cases h with
      | named h => exact absurd h (hnames account)
      | fallback _ hkey h => exact ⟨_, hkey, h⟩

theorem findPool_of_names {pool : String} (h : NamesPool resolver message pool) :
    (findPool resolver message v).1 = some pool := by
  simp only [findPool, ask_valueOf_eq_some_iff.2 h]
  rfl

theorem findPool_of_not_names (h : ∀ p, ¬NamesPool resolver message p) :
    (findPool resolver message v).1 = usable (v.get? Variable.workerPool) := by
  have hnone :
      (ask resolver.pool .pool (valueOf message "octopusDefaultWorkerPoolIdOrName")).1 = none :=
    Option.eq_none_iff_forall_ne_some.2 fun p hp => h p (ask_valueOf_eq_some_iff.1 hp)
  simp only [findPool, hnone]
  rfl

theorem findPool_eq_iff {pool : Option String} :
    (findPool resolver message v).1 = pool ↔ PoolOf resolver message v pool := by
  by_cases hnames : ∃ p, NamesPool resolver message p
  · obtain ⟨p, hp⟩ := hnames
    rw [findPool_of_names hp]
    constructor
    · rintro rfl
      exact .named hp
    · intro h
      cases h with
      | named h => rw [hp.unique h]
      | fallback hnone => exact absurd hp (hnone p)
      | missing hnone => exact absurd hp (hnone p)
  · rw [not_exists] at hnames
    rw [findPool_of_not_names hnames]
    constructor
    · rintro rfl
      cases hpool : usable (v.get? Variable.workerPool) with
      | none => exact .missing hnames (usable_eq_none_iff.1 hpool)
      | some p => exact .fallback hnames (usable_eq_some_iff.1 hpool)
    · intro h
      cases h with
      | named h => exact absurd h (hnames _)
      | fallback _ h => exact usable_eq_some_iff.2 h
      | missing _ h => exact usable_eq_none_iff.2 h

theorem required_eq_ok_iff {key s : String} :
    required message key = .ok s ↔ Usable (message.get? key) s := by
  rw [← usable_eq_some_iff, ← valueOf, required]
  cases valueOf message key <;> simp

theorem required_eq_error_iff {key : String} {e : Error} :
    required message key = .error e ↔
      (∀ s, ¬Usable (message.get? key) s) ∧ e = .missingAttribute key := by
  rw [← usable_eq_none_iff, ← valueOf, required]
  cases valueOf message key <;> simp [eq_comm]

theorem assemble_eq_ok_iff {account : String} {pool : Option String} {e : Endpoint} :
    assemble message account pool = .ok e ↔
      Usable (message.get? "azureResourceGroupName") e.resourceGroup ∧
        Usable (message.get? "azureWebApp") e.webApp ∧ e.account = account ∧
        e.slotName = (message.get? "azureWebAppSlot").getD "" ∧ e.workerPool = pool := by
  simp only [assemble, bind_eq_ok_iff, required_eq_ok_iff]
  constructor
  · rintro ⟨g, hg, a, ha, ⟨⟩⟩
    exact ⟨hg, ha, rfl, rfl, rfl⟩
  · rintro ⟨hg, ha, rfl, hslot, rfl⟩
    exact ⟨_, hg, _, ha, by rw [← hslot]; rfl⟩

theorem assemble_eq_error_iff {account : String} {pool : Option String} {e : Error} :
    assemble message account pool = .error e ↔
      ((∀ s, ¬Usable (message.get? "azureResourceGroupName") s) ∧
          e = .missingAttribute "azureResourceGroupName") ∨
        ∃ g, Usable (message.get? "azureResourceGroupName") g ∧
          (∀ s, ¬Usable (message.get? "azureWebApp") s) ∧ e = .missingAttribute "azureWebApp" := by
  simp only [assemble, bind_eq_error_iff, required_eq_ok_iff, required_eq_error_iff]
  simp [pure, Except.pure]

end Parts

section Resolve

variable {resolver : Resolver} {message : Table String} {v : Variables}

theorem resolve_of_no_account (h : (findAccount resolver message v).1 = none) :
    (resolve resolver message v).outcome = .error (.accountNotFound (v.getD Variable.account)) ∧
      (resolve resolver message v).log =
        [.line .error (Error.accountNotFound (v.getD Variable.account)).message] ∧
      (resolve resolver message v).asked = (findAccount resolver message v).2 := by
  have hf : findAccount resolver message v = (none, (findAccount resolver message v).2) :=
    Prod.ext h rfl
  rw [resolve, hf]
  exact ⟨rfl, rfl, rfl⟩

theorem outcome_eq_ok_iff {e : Endpoint} :
    (resolve resolver message v).outcome = .ok e ↔ Meant resolver message v e := by
  cases hfound : (findAccount resolver message v).1 with
  | none =>
      rw [(resolve_of_no_account hfound).1]
      refine ⟨nofun, fun h => ?_⟩
      cases hfound.symm.trans (findAccount_eq_some_iff.2 h.account)
  | some account =>
      rw [(resolve_of_account hfound).1, assemble_eq_ok_iff]
      constructor
      · rintro ⟨hg, hw, rfl, hslot, hpool⟩
        exact ⟨findAccount_eq_some_iff.1 hfound, hg, hw, hslot, findPool_eq_iff.1 hpool.symm⟩
      · rintro ⟨ha, hg, hw, hslot, hpool⟩
        exact ⟨hg, hw, Option.some.inj ((findAccount_eq_some_iff.2 ha).symm.trans hfound), hslot,
          (findPool_eq_iff.2 hpool).symm⟩

theorem outcome_eq_error_iff {err : Error} :
    (resolve resolver message v).outcome = .error err ↔ Lacking resolver message v err := by
  cases hfound : (findAccount resolver message v).1 with
  | none =>
      have hnone (a : String) : ¬AccountOf resolver message v a := fun ha => by
        cases hfound.symm.trans (findAccount_eq_some_iff.2 ha)
      rw [(resolve_of_no_account hfound).1]
      constructor
      · rintro ⟨⟩
        exact .account hnone
      · intro h
        cases h with
        | account => rfl
        | resourceGroup ha => exact absurd ha (hnone _)
        | webApp ha => exact absurd ha (hnone _)
  | some account =>
      have haccount := findAccount_eq_some_iff.1 hfound
      rw [(resolve_of_account hfound).1, assemble_eq_error_iff]
      constructor
      · rintro (⟨hg, rfl⟩ | ⟨g, hg, hw, rfl⟩)
        · exact .resourceGroup haccount hg
        · exact .webApp haccount hg hw
      · intro h
        cases h with
        | account h => exact absurd haccount (h account)
        | resourceGroup _ h => exact .inl ⟨h, rfl⟩
        | webApp _ hg h => exact .inr ⟨_, hg, h, rfl⟩

theorem exists_outcome_eq_ok_iff :
    (∃ e, (resolve resolver message v).outcome = .ok e) ↔
      (∃ a, AccountOf resolver message v a) ∧
        (∃ g, Usable (message.get? "azureResourceGroupName") g) ∧
          ∃ w, Usable (message.get? "azureWebApp") w := by
  simp only [outcome_eq_ok_iff]
  constructor
  · rintro ⟨e, h⟩
    exact ⟨⟨_, h.account⟩, ⟨_, h.resourceGroup⟩, _, h.webApp⟩
  · rintro ⟨⟨a, ha⟩, ⟨g, hg⟩, w, hw⟩
    exact ⟨⟨a, g, w, _, _⟩, ha, hg, hw, rfl, findPool_eq_iff.1 rfl⟩

theorem accountKeys_asked :
    accountKeys (resolve resolver message v).asked =
      accountKeys (findAccount resolver message v).2 := by
  cases hfound : (findAccount resolver message v).1 with
  | none => rw [(resolve_of_no_account hfound).2.2]
  | some account =>
      rw [(resolve_of_account hfound).2.2.1, accountKeys_append, findPool, accountKeys_ask_pool,
        List.append_nil]

theorem resolve_congr_of_names {account : String} (h : Names resolver message account)
    {v' : Variables} (hv : ∀ k, k ≠ Variable.account → v'.get? k = v.get? k) :
    resolve resolver message v' = resolve resolver message v := by
  have haccount : findAccount resolver message v' = findAccount resolver message v := by
    rw [findAccount_of_names h, findAccount_of_names h]
  have hpool : findPool resolver message v' = findPool resolver message v := by
    simp only [findPool, Variables.nonBlank?, hv Variable.workerPool (by decide)]
  rw [resolve, resolve, haccount, findAccount_of_names h, hpool]

/-- An endpoint is resolved in a strict order. The account of the message comes before that of the
variable, which is neither asked for nor looked at when the message leads to one; the worker pool goes
the same way. There is an endpoint if and only if account, group and web app are there, and otherwise
the first of them that is missed is the error. An account that is missed, and nothing else, is told. -/
theorem resolve_precedence (resolver : Resolver) (message : Table String) (v : Variables) :
    (∀ e, (resolve resolver message v).outcome = .ok e ↔ Meant resolver message v e) ∧
      ((∃ e, (resolve resolver message v).outcome = .ok e) ↔
        (∃ a, AccountOf resolver message v a) ∧
          (∃ g, Usable (message.get? "azureResourceGroupName") g) ∧
            ∃ w, Usable (message.get? "azureWebApp") w) ∧
      (∀ err, (resolve resolver message v).outcome = .error err ↔ Lacking resolver message v err) ∧
      (∀ a, AccountOf resolver message v a → (resolve resolver message v).log = []) ∧
      ((∀ a, ¬AccountOf resolver message v a) →
        (resolve resolver message v).log =
          [.line .error ("Account with Id / Name, " ++ (v.get? Variable.account).getD "" ++ ", not found.")]) ∧
      (∀ a, Names resolver message a →
        accountKeys (resolve resolver message v).asked =
            (valueOf message "octopusAccountIdOrName").toList ∧
          ∀ v' : Variables, (∀ k, k ≠ Variable.account → v'.get? k = v.get? k) →
            resolve resolver message v' = resolve resolver message v) ∧
      ((∀ a, ¬Names resolver message a) →
        accountKeys (resolve resolver message v).asked =
          (valueOf message "octopusAccountIdOrName").toList ++
            (v.get? Variable.account).toList) := by
  refine ⟨fun e => outcome_eq_ok_iff, exists_outcome_eq_ok_iff, fun err => outcome_eq_error_iff,
    fun a ha => ?_, fun hnone => ?_, fun a ha => ⟨?_, fun v' => resolve_congr_of_names ha⟩,
    fun hnone => ?_⟩
  · exact (resolve_of_account (findAccount_eq_some_iff.2 ha)).2.1
  · refine (resolve_of_no_account (Option.eq_none_iff_forall_ne_some.2 fun a ha => ?_)).2.1
    exact hnone a (findAccount_eq_some_iff.1 ha)
  · rw [accountKeys_asked, findAccount_of_names ha, accountKeys_ask_account]
  · rw [accountKeys_asked, findAccount_of_not_names hnone, accountKeys_append,
      accountKeys_ask_account, accountKeys_ask_account]

end Resolve

end Endpoint

end WebAppTargets
