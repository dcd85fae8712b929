import WebAppTargets.Discovery.Scan
import WebAppTargets.Endpoint
import WebAppTargets.Proofs.MessageRoundTrip
import WebAppTargets.Proofs.Table

namespace WebAppTargets

namespace Resource

/-- A resource as clients make it: a web app or a slot, with more told about it. -/
inductive Made : Resource → Prop
  | webApp (name resourceGroup : String) (tags : Table String) (plan : Option String)
      (lastModified : Option Instant) :
      Made { webApp name resourceGroup with tags, plan, lastModified }
  | slot (parent name resourceGroup : String) (tags : Table String) (plan : Option String)
      (lastModified : Option Instant) :
      Made { slot parent name resourceGroup with tags, plan, lastModified }

theorem Made.site_eq {r : Resource} (h : r.Made) :
    r.site = Site.of r.resourceGroup r.siteName (if r.isSlot then some r.name else none) := by
  cases h <;> rfl

end Resource

theorem Site.of_getD (resourceGroup webApp : String) (slot : Option String) :
    of resourceGroup webApp (some (slot.getD "")) = of resourceGroup webApp slot := by
  cases slot <;> rfl

namespace Match

def keys : List String :=
  ["name", "azureWebAppSlot", "azureWebApp", "azureResourceGroupName", "octopusRoles",
    "updateIfExisting", "isDynamic"]

variable (m : Match)

theorem keys_message : m.message.attributes.map Prod.fst ⊆ keys := by
  cases hs : m.slot <;> simp [message, keys, hs]

theorem nodup_keys_message : (m.message.attributes.map Prod.fst).Nodup := by
  cases hs : m.slot <;> simp [message, hs]

theorem message_wellFormed : m.message.WellFormed where
  named := by
    change "create-azurewebapptarget" ≠ ""
    decide
  whole := by
    change ' ' ∉ "create-azurewebapptarget".toList
    decide
  keys := by
    have hkeys : ∀ k ∈ keys, ServiceMessage.KeyFits k := by decide
    intro e he
    exact hkeys e.1 (m.keys_message (List.mem_map_of_mem he))

theorem get?_table (k : String) :
    m.message.table.get? k =
      if k = "azureWebAppSlot" then m.slot
      else [("name", m.target), ("azureWebApp", m.webApp), ("azureResourceGroupName", m.resourceGroup),
        ("octopusRoles", m.role), ("updateIfExisting", "True"), ("isDynamic", "True")].lookup k := by
  rw [ServiceMessage.table, Table.get?_ofList_of_nodup m.nodup_keys_message]
  by_cases hk : k = "azureWebAppSlot"
  · cases hs : m.slot <;> simp [message, hs, hk, List.lookup_cons]
  · have hk' : (k == "azureWebAppSlot") = false := beq_false_of_ne hk
    cases hs : m.slot <;> simp [message, hs, hk, hk', List.lookup_cons]

end Match

namespace Endpoint

variable {resolver : Resolver} {message : Table String} {v : Variables}

theorem usable_of_not_blank {s : String} (h : Text.isBlankText s = false) :
    usable (some s) = some s := by
  simp [usable, Option.filter, h]

theorem findAccount_of_variable {key account : String}
    (hm : message.get? "octopusAccountIdOrName" = none) (hv : v.get? Variable.account = some key)
    (hr : usable (resolver.account key) = some account) :
    (findAccount resolver message v).1 = some account := by
  have hm' : valueOf message "octopusAccountIdOrName" = none := by
    rw [valueOf, hm]
    rfl
  simp only [findAccount, hm', hv, ask, hr]

theorem resolve_of_account {account : String}
    (h : (findAccount resolver message v).1 = some account) :
    (resolve resolver message v).outcome =
        assemble message account (findPool resolver message v).1 ∧
      (resolve resolver message v).log = [] ∧
      (resolve resolver message v).asked =
        (findAccount resolver message v).2 ++ (findPool resolver message v).2 ∧
      ∀ t ∈ (resolve resolver message v).trace, t.level ≠ .error := by
  have hf : findAccount resolver message v = (some account, (findAccount resolver message v).2) :=
    Prod.ext h rfl
  rw [resolve, hf]
  dsimp only
  cases assemble message account (findPool resolver message v).1 with
  | error e => exact ⟨rfl, rfl, rfl, by simp⟩
  | ok endpoint => exact ⟨rfl, rfl, rfl, by simp⟩

theorem resolve_of_found {account resourceGroup webApp : String}
    (ha : (findAccount resolver message v).1 = some account)
    (hg : valueOf message "azureResourceGroupName" = some resourceGroup)
    (hw : valueOf message "azureWebApp" = some webApp) :
    (resolve resolver message v).outcome =
        .ok ⟨account, resourceGroup, webApp, (message.get? "azureWebAppSlot").getD "",
          (findPool resolver message v).1⟩ ∧
      (resolve resolver message v).log = [] ∧
      ∀ t ∈ (resolve resolver message v).trace, t.level ≠ .error := by
  obtain ⟨houtcome, hlog, -, htrace⟩ := resolve_of_account ha
  refine ⟨houtcome.trans ?_, hlog, htrace⟩
  simp [assemble, required, hg, hw, bind, Except.bind, pure, Except.pure]

end Endpoint

namespace Scope

variable {scope : Scope} {r : Resource} {role : String}

theorem match?_of_tags (henv : r.tags.get? environmentTag = some scope.environment)
    (hrole : r.tags.get? roleTag = some role) (hin : scope.roles.contains role) :
    ∃ m, scope.match? r = some m ∧ m.webApp = r.siteName ∧ m.resourceGroup = r.resourceGroup ∧
      m.slot = if r.isSlot then some r.name else none := by
  have hm : scope.matchingRole r.tags = some role := by
    simp [matchingRole, henv, hrole, Option.filter, hin]
  rw [match?, hm]
  exact ⟨_, rfl, rfl, rfl, rfl⟩

theorem scan_append_cons {m : Match} (h : scope.match? r = some m) (before after : List Resource) :
    scope.scan (before ++ r :: after) = scope.scan before ++ m :: scope.scan after := by
  rw [scan, scan, scan, List.filterMap_append, List.filterMap_cons_some h]

/-- A match is registered under the site of its resource: its message is read back, and the endpoint
that comes of it has group, web app and slot of the resource. -/
theorem scanned_resolves {resolver : Endpoint.Resolver} {v : Variables} {key account : String}
    (hr : r.Made) (henv : r.tags.get? environmentTag = some scope.environment)
    (hrole : r.tags.get? roleTag = some role) (hin : scope.roles.contains role)
    (happ : Text.isBlankText r.siteName = false) (hgroup : Text.isBlankText r.resourceGroup = false)
    (hkey : v.get? Variable.account = some key) (hid : resolver.account key = some account)
    (haccount : Text.isBlankText account = false) :
    ∃ m parsed e,
      (∀ before after, scope.scan (before ++ r :: after) =
        scope.scan before ++ m :: scope.scan after) ∧
      ServiceMessage.parse m.message.text = .ok parsed ∧
      (Endpoint.resolve resolver parsed.table v).outcome = .ok e ∧
      (Endpoint.resolve resolver parsed.table v).log = [] ∧
      (∀ t ∈ (Endpoint.resolve resolver parsed.table v).trace, t.level ≠ .error) ∧
      Site.of e.resourceGroup e.webApp (some e.slotName) = r.site := by
  obtain ⟨m, hm, hwebApp, hresourceGroup, hslot⟩ := match?_of_tags henv hrole hin
  have hm_account : m.message.table.get? "octopusAccountIdOrName" = none := m.get?_table _
  have hm_group : m.message.table.get? "azureResourceGroupName" = some m.resourceGroup :=
    m.get?_table _
  have hm_webApp : m.message.table.get? "azureWebApp" = some m.webApp := m.get?_table _
  have hm_slot : m.message.table.get? "azureWebAppSlot" = m.slot := m.get?_table _
  have ha : (Endpoint.findAccount resolver m.message.table v).1 = some account :=
    Endpoint.findAccount_of_variable hm_account hkey
      (by rw [hid, Endpoint.usable_of_not_blank haccount])
  have hg : Endpoint.valueOf m.message.table "azureResourceGroupName" = some m.resourceGroup := by
    rw [Endpoint.valueOf, hm_group, hresourceGroup, Endpoint.usable_of_not_blank hgroup]
  have hw : Endpoint.valueOf m.message.table "azureWebApp" = some m.webApp := by
    rw [Endpoint.valueOf, hm_webApp, hwebApp, Endpoint.usable_of_not_blank happ]
  obtain ⟨ho, hlog, htrace⟩ := Endpoint.resolve_of_found ha hg hw
  refine ⟨m, m.message, _, scan_append_cons hm, ServiceMessage.parse_text m.message_wellFormed, ho,
    hlog, htrace, ?_⟩
  rw [hr.site_eq, ← hslot, ← hwebApp, ← hresourceGroup, hm_slot]
  exact Site.of_getD _ _ _

def development : Scope := ⟨"Spaces-1", "dev", "Projects-1", none, NameSet.ofList ["web"]⟩

def markedSlot : Resource :=
  { Resource.slot "größe" "a\"]\n" "rg" with
    tags := .ofList [(environmentTag, "dev"), (roleTag, "web")] }

def accountIds : Endpoint.Resolver := ⟨some, fun _ => none⟩

def accountOnly : Variables := .ofList [(Variable.account, "Accounts-1")]

theorem scanned_markedSlot_resolves :
    ∃ m parsed e, development.scan [markedSlot] = [m] ∧
      ServiceMessage.parse m.message.text = .ok parsed ∧
      (Endpoint.resolve accountIds parsed.table accountOnly).outcome = .ok e ∧
      Site.of e.resourceGroup e.webApp (some e.slotName) = ⟨"rg", "größe", some "a\"]\n"⟩ := by
  have hr : markedSlot.Made := .slot "größe" "a\"]\n" "rg" _ none none
  have henv : markedSlot.tags.get? environmentTag = some development.environment := by decide
  have hrole : markedSlot.tags.get? roleTag = some "web" := by decide
  have hkey : accountOnly.get? Variable.account = some "Accounts-1" := by decide
  have hid : accountIds.account "Accounts-1" = some "Accounts-1" := rfl
  obtain ⟨m, parsed, e, hscan, hparse, ho, -, -, hsite⟩ :=
    scanned_resolves hr henv hrole (by decide) (by decide) (by decide) hkey hid (by decide)
  exact ⟨m, parsed, e, hscan [] [], hparse, ho, hsite⟩

end Scope

end WebAppTargets
