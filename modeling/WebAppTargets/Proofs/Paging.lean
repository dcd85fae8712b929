import WebAppTargets.Json.Writer
import WebAppTargets.Proofs.Answers
import WebAppTargets.Proofs.Completeness
import WebAppTargets.Proofs.Cutting

namespace WebAppTargets

open Json

structure Family where
  app : ListedSite
  slots : List ListedSite

namespace Family

variable (f : Family) (resourceGroup : String)

def listed : List ListedSite := f.slots.map fun s => { s with name := s!"{f.app.name}/{s.name}" }

def appResource : Resource := { Resource.webApp f.app.name resourceGroup with tags := f.app.tags }

def slotResources : List Resource :=
  f.slots.map fun s => { Resource.slot f.app.name s.name resourceGroup with tags := s.tags }

end Family

namespace Rest

open WebAppTargets.Action

variable (r : Rest)

def appsAddress (resourceGroup : String) : String :=
  r.groupAddress resourceGroup ++ "/sites" ++ "?api-version=" ++ r.version

def slotsAddress (resourceGroup webApp : String) : String :=
  r.webAppAddress resourceGroup webApp ++ "/slots" ++ "?api-version=" ++ r.version

/-- Replies that give these sites page by page, from the page at an address on. -/
inductive Paged : String → List Reply → List ListedSite → Prop
  | last {url : String} {reply : Reply} {v : Value} {sites : List ListedSite}
      (hreach : r.Reaches url) (hreply : reply.Holds v) (hpage : TellsPage v ⟨sites, none⟩) :
      Paged url [reply] sites
  | more {url next : String} {reply : Reply} {v : Value} {sites others : List ListedSite}
      {replies : List Reply} (hreach : r.Reaches url) (hreply : reply.Holds v)
      (hpage : TellsPage v ⟨sites, some next⟩) (hrest : Paged next replies others) :
      Paged url (reply :: replies) (sites ++ others)

inductive PagedSlots (resourceGroup : String) : List Reply → List Family → Prop
  | nil : PagedSlots resourceGroup [] []
  | cons {f : Family} {replies more : List Reply} {families : List Family}
      (hslots : r.Paged (r.slotsAddress resourceGroup f.app.name) replies f.listed)
      (hrest : PagedSlots resourceGroup more families) :
      PagedSlots resourceGroup (replies ++ more) (f :: families)

/-- The service answers with the pages of these web apps, and then with those of their slots. -/
def Serves (resourceGroup : String) (families : List Family) : Prop :=
  ∃ apps slots, r.Paged (r.appsAddress resourceGroup) apps (families.map Family.app) ∧
    r.PagedSlots resourceGroup slots families ∧ apps ++ slots <+: r.network.replies

variable {r} {reply : Reply} {replies : List Reply} {resourceGroup : String}
  {families : List Family}

theorem reply_of_isPrefix {k : Nat} (h : reply :: replies <+: r.network.replies.drop k) :
    r.reply k = reply ∧ replies <+: r.network.replies.drop (k + 1) := by
  obtain ⟨rest, hrest⟩ := h
  constructor
  · rw [Rest.reply, ← List.head?_drop, ← hrest]
    rfl
  · exact ⟨rest, by rw [← List.tail_drop, ← hrest]; rfl⟩

theorem isPrefix_drop_of_append {α : Type} {k : Nat} {l a b : List α} (h : a ++ b <+: l.drop k) :
    a <+: l.drop k ∧ b <+: l.drop (k + a.length) := by
  obtain ⟨rest, hrest⟩ := h
  constructor
  · exact ⟨b ++ rest, by rw [← hrest, List.append_assoc]⟩
  · exact ⟨rest, by rw [← List.drop_drop, ← hrest, List.append_assoc, List.drop_left]⟩

section Listing

variable (hopen : r.isOpen) (sent : List Request)

include hopen

theorem page_ends {url : String} {v : Value} {p : Page} (hreach : r.Reaches url)
    (hreply : (r.reply sent.length).Holds v) (hpage : TellsPage v p) :
    ∃ q, Ends (r.after sent) (request Page.decode .get url) (.ok p) (r.after (sent ++ [q])) := by
  have h := request_ends (r := r.after sent) hopen .get none Page.decode hreach
  rw [after_after, reply_after, Nat.add_zero, hreply.read_eq hpage.decode_node] at h
  exact ⟨_, h⟩

theorem Paged.pages_ends {url : String} {sites : List ListedSite} (h : r.Paged url replies sites)
    (hreplies : replies <+: r.network.replies.drop sent.length) {n : Nat}
    (hn : replies.length ≤ n + 1) :
    ∃ more, more.length = replies.length ∧
      Ends (r.after sent) (pages n url) (.ok sites) (r.after (sent ++ more)) := by
  -- on the pages, which never outnumber the replies that are left
  induction h generalizing sent n with
  | last hreach hreply hpage =>
      obtain ⟨hreply', -⟩ := reply_of_isPrefix hreplies
      obtain ⟨q, hq⟩ := page_ends hopen sent hreach (hreply' ▸ hreply) hpage
      refine ⟨[q], rfl, ?_⟩
      cases n <;> exact hq.bind (Ends.value _ _)
  | more hreach hreply hpage hrest ih =>
      obtain ⟨hreply', hreplies⟩ := reply_of_isPrefix hreplies
      obtain ⟨q, hq⟩ := page_ends hopen sent hreach (hreply' ▸ hreply) hpage
      cases n with
      | zero => cases hrest <;> simp at hn
      | succ n =>
          obtain ⟨more, hlength, hends⟩ := ih (sent ++ [q]) (by simpa using hreplies)
            (Nat.le_of_succ_le_succ hn)
          rw [List.append_assoc] at hends
          exact ⟨q :: more, by simp [hlength], hq.bind (hends.bind (Ends.value _ _))⟩

theorem Paged.listing_ends {url : String} {sites : List ListedSite} (h : r.Paged url replies sites)
    (hreplies : replies <+: r.network.replies.drop sent.length) :
    ∃ more, more.length = replies.length ∧
      Ends (r.after sent) (listing url) (.ok sites) (r.after (sent ++ more)) := by
  obtain ⟨more, hlength, hends⟩ := h.pages_ends hopen sent hreplies
    (Nat.le_succ_of_le hreplies.length_le)
  exact ⟨more, hlength, (Ends.client _).bind hends⟩

theorem listWebApps_ends {sites : List ListedSite}
    (hgroup : Naming.checkResourceGroup resourceGroup = .ok ())
    (h : r.Paged (r.appsAddress resourceGroup) replies sites)
    (hreplies : replies <+: r.network.replies.drop sent.length) :
    ∃ more, more.length = replies.length ∧
      Ends (r.after sent) (Client.listWebApps resourceGroup)
        (.ok (sites.map (·.webApp resourceGroup))) (r.after (sent ++ more)) := by
  obtain ⟨more, hlength, hends⟩ := h.listing_ends hopen sent hreplies
  refine ⟨more, hlength, (locate_ends (groupUrl_eq (r.after sent) hgroup) _).bind ?_⟩
  exact (hends.inContext _).bind (Ends.value _ _)

theorem listSlots_ends {sites : List ListedSite} {webApp : String}
    (hgroup : Naming.checkResourceGroup resourceGroup = .ok ())
    (happ : Naming.checkWebApp webApp = .ok ())
    (h : r.Paged (r.slotsAddress resourceGroup webApp) replies sites)
    (hreplies : replies <+: r.network.replies.drop sent.length) :
    ∃ more, more.length = replies.length ∧
      Ends (r.after sent) (Client.listSlots resourceGroup webApp)
        (.ok (sites.map (·.slot resourceGroup webApp))) (r.after (sent ++ more)) := by
  obtain ⟨more, hlength, hends⟩ := h.listing_ends hopen sent hreplies
  refine ⟨more, hlength, (locate_ends (webAppUrl_eq (r.after sent) hgroup happ) _).bind ?_⟩
  exact (hends.inContext _).bind (Ends.value _ _)

theorem PagedSlots.enumerates (hgroup : Naming.checkResourceGroup resourceGroup = .ok ())
    (happs : ∀ f ∈ families, Naming.checkWebApp f.app.name = .ok ())
    (h : r.PagedSlots resourceGroup replies families)
    (hreplies : replies <+: r.network.replies.drop sent.length) :
    ∃ more, Discovery.Enumerates resourceGroup (r.after sent)
      (families.map fun f => (f.app.webApp resourceGroup,
        f.listed.map (·.slot resourceGroup f.app.name))) (r.after more) := by
  induction h generalizing sent with
  | nil => exact ⟨sent, .nil _⟩
  | @cons f replies others families hslots hrest ih =>
      obtain ⟨happ, happs⟩ := List.forall_mem_cons.1 happs
      obtain ⟨hreplies, hothers⟩ := isPrefix_drop_of_append hreplies
      obtain ⟨more, hlength, hends⟩ := listSlots_ends hopen sent hgroup happ hslots hreplies
      obtain ⟨last, hlast⟩ := ih (sent ++ more) happs (by
        rwa [List.length_append, hlength])
      exact ⟨last, .cons hends hlast⟩

theorem Serves.find_ends (hgroup : Naming.checkResourceGroup resourceGroup = .ok ())
    (happs : ∀ f ∈ families, Naming.checkWebApp f.app.name = .ok ())
    (h : r.Serves resourceGroup families) (scope : Scope) :
    ∃ r', Ends r (Discovery.find scope resourceGroup)
      (.ok (scope.scan (families.flatMap fun f => f.app.webApp resourceGroup ::
        f.listed.map (·.slot resourceGroup f.app.name)))) r' := by
  obtain ⟨apps, slots, hpages, hslots, hreplies⟩ := h
  obtain ⟨happsPrefix, hslotsPrefix⟩ := isPrefix_drop_of_append (k := 0) hreplies
  obtain ⟨more, hlength, hends⟩ := listWebApps_ends hopen [] hgroup hpages happsPrefix
  rw [after_nil, List.nil_append] at hends
  obtain ⟨last, hlast⟩ := hslots.enumerates hopen more hgroup happs (by
    rwa [hlength, ← Nat.zero_add apps.length])
  have hfind := hlast.find_ends (by simp [Function.comp_def]) hends scope
  rw [List.flatMap_map] at hfind
  exact ⟨_, hfind⟩

end Listing

end Rest

namespace Resource

def core (r : Resource) : Resource := { r with plan := none, lastModified := none }

end Resource

theorem Scope.scan_map_core (scope : Scope) (l : List Resource) :
    scope.scan (l.map Resource.core) = scope.scan l := List.filterMap_map

theorem Family.slots_core (f : Family) {resourceGroup : String}
    (hslots : ∀ s ∈ f.slots, '/' ∉ s.name.toList) :
    (f.listed.map (·.slot resourceGroup f.app.name)).map Resource.core =
      f.slotResources resourceGroup := by
  rw [Family.listed, Family.slotResources, List.map_map, List.map_map]
  apply List.map_congr_left
  intro s hs
  have hname : (s!"{f.app.name}/{s.name}").toList = f.app.name.toList ++ '/' :: s.name.toList := by
    change (f.app.name ++ "/" ++ s.name).toList = _
    simp
  change Resource.core (ListedSite.slot { s with name := _ } resourceGroup f.app.name) = _
  rw [ListedSite.slot, hname, Text.afterLast_append (hslots s hs), String.ofList_toList]
  rfl

/-- The client has these web apps, in this order, and these slots of each. Plan and time of the last
change do not count. -/
structure Memory.Holds (m : Memory) (resourceGroup : String) (families : List Family) : Prop where
  apps : (m.webApps resourceGroup).map Resource.core = families.map (·.appResource resourceGroup)
  slots : ∀ f ∈ families,
    (m.slots resourceGroup f.app.name).map Resource.core = f.slotResources resourceGroup

namespace Memory

variable {m : Memory} {resourceGroup : String} {families : List Family}

theorem Holds.enumeration_core (h : m.Holds resourceGroup families) :
    ((m.webApps resourceGroup).flatMap fun a => a :: m.slots resourceGroup a.name).map Resource.core =
      families.flatMap fun f => f.appResource resourceGroup :: f.slotResources resourceGroup := by
  calc ((m.webApps resourceGroup).flatMap fun a => a :: m.slots resourceGroup a.name).map Resource.core
      = ((m.webApps resourceGroup).map Resource.core).flatMap fun a =>
          a :: (m.slots resourceGroup a.name).map Resource.core := by
        rw [List.map_flatMap, List.flatMap_map]
        rfl
    _ = families.flatMap fun f => f.appResource resourceGroup ::
          (m.slots resourceGroup f.app.name).map Resource.core := by
        rw [h.apps, List.flatMap_map]
        rfl
    _ = families.flatMap fun f => f.appResource resourceGroup :: f.slotResources resourceGroup := by
        apply List.flatMap_congr
        intro f hf
        rw [h.slots f hf]

end Memory

namespace Discovery

/-- However the listings are cut into pages, the REST client finds what a memory client with the same
web apps and slots does. -/
theorem find_paged (scope : Scope) (resourceGroup : String) {families : List Family} {w : World Rest}
    {v : World Memory} (hgroup : Naming.checkResourceGroup resourceGroup = .ok ())
    (happs : ∀ f ∈ families, Naming.checkWebApp f.app.name = .ok ())
    (hslots : ∀ f ∈ families, ∀ s ∈ f.slots, '/' ∉ s.name.toList)
    (hopen : w.client.isOpen) (hserves : w.client.Serves resourceGroup families)
    (herror : v.client.listError = none) (hholds : v.client.Holds resourceGroup families) :
    ∃ found, (find scope resourceGroup w).1 = .ok found ∧
      (find scope resourceGroup v).1 = .ok found := by
  obtain ⟨r', hrest⟩ := hserves.find_ends hopen hgroup happs scope
  obtain ⟨m', hmemory⟩ := Memory.find_ends herror scope resourceGroup
  have hsame : (families.flatMap fun f => f.app.webApp resourceGroup ::
        f.listed.map (·.slot resourceGroup f.app.name)).map Resource.core =
      ((v.client.webApps resourceGroup).flatMap fun a =>
        a :: v.client.slots resourceGroup a.name).map Resource.core := by
    rw [hholds.enumeration_core, List.map_flatMap]
    apply List.flatMap_congr
    intro f hf
    rw [List.map_cons, f.slots_core (hslots f hf)]
    rfl
  have hscan := congrArg scope.scan hsame
  rw [scope.scan_map_core, scope.scan_map_core] at hscan
  exact ⟨_, (hrest w rfl).1, hscan ▸ (hmemory v rfl).1⟩

section Witness

open Rest

def siteJson (name : String) (tags : Value) : Value :=
  .ofFields [("name", .string name), ("tags", tags)]

def pageJson (sites : List Value) (next : Value) : Value :=
  .ofFields [("value", .ofItems sites), ("nextLink", next)]

theorem siteJson_tells (name : String) {v : Value} {tags : Option (Table String)}
    (h : TellsOption (Value.TellsTable TellsText) (some v) tags) :
    TellsSite (siteJson name v) ⟨name, tags.getD .empty, none, none⟩ where
  record := ⟨_, rfl, (by decide : ["name", "tags"].Nodup)⟩
  name := rfl
  tags := ⟨tags, h, rfl⟩
  details := ⟨none, .missing, rfl, rfl⟩

theorem pageJson_tells {sites : List Value} {l : List ListedSite} {v : Value} {next : Option String}
    (h : List.Forall₂ TellsSite sites l) (hnext : TellsNext (some v) next) :
    TellsPage (pageJson sites v) ⟨l, next⟩ where
  record := ⟨_, rfl, (by decide : ["value", "nextLink"].Nodup)⟩
  sites := ⟨_, rfl, sites, rfl, h⟩
  next := hnext

def webTagsJson : Value :=
  .ofFields [(Scope.environmentTag, .string "dev"), (Scope.roleTag, .string "web")]

def firstPage : Value := pageJson [siteJson "a" webTagsJson] (.string "http://[::1]/2")

def emptyPage : Value := pageJson [] (.string "")

def slotPage : Value := pageJson [siteJson "a/blue" .null] .null

def pagedClient : Rest :=
  .loopback ([firstPage, emptyPage, slotPage].map fun v => ⟨200, v.text⟩)

def pagedMemory : Memory where
  resources := [Resource.slot "a" "blue" "rg", { Resource.webApp "a" "rg" with tags := webTags, plan := "p" }]

def pagedFamily : Family := ⟨⟨"a", webTags, none, none⟩, [⟨"blue", .empty, none, none⟩]⟩

theorem webTagsJson_tells : TellsOption (Value.TellsTable TellsText) (some webTagsJson) (some webTags) :=
  .given ⟨_, [(Scope.environmentTag, "dev"), (Scope.roleTag, "web")], rfl,
    .cons ⟨rfl, rfl⟩ (.cons ⟨rfl, rfl⟩ .nil), rfl⟩

theorem firstPage_tells : TellsPage firstPage ⟨[pagedFamily.app], some "http://[::1]/2"⟩ :=
  pageJson_tells (.cons (siteJson_tells "a" webTagsJson_tells) .nil) (.link (by decide))

theorem secondPage_reaches (replies : List Reply) : (loopback replies).Reaches "http://[::1]/2" :=
  loopback_reaches (by decide +kernel)

theorem slotsAddress_reaches (replies : List Reply) :
    (loopback replies).Reaches ((loopback replies).slotsAddress "rg" "a") := by
  have haddress : (loopback replies).slotsAddress "rg" "a" = (loopback []).slotsAddress "rg" "a" := rfl
  rw [haddress]
  apply loopback_reaches
  simp only [slotsAddress, webAppAddress, groupAddress, toString, String.toList_append]
  decide +kernel

set_option maxRecDepth 100000 in
theorem pagedClient_serves : pagedClient.Serves "rg" [pagedFamily] := by
  have hempty : TellsPage emptyPage ⟨[], none⟩ := pageJson_tells .nil .empty
  have hslot : TellsPage slotPage ⟨pagedFamily.listed, none⟩ :=
    pageJson_tells (.cons (siteJson_tells "a/blue" .null) .nil) .null
  have hholds : ∀ v ∈ [firstPage, emptyPage, slotPage], Reply.Holds ⟨200, v.text⟩ v := by
    have hrenders : ∀ v ∈ [firstPage, emptyPage, slotPage], Renders v.text v := by decide +kernel
    exact fun v hv => (hrenders v hv).holds
  have happs : pagedClient.Reaches (pagedClient.appsAddress "rg") := by
    apply loopback_reaches
    simp only [appsAddress, groupAddress, toString, String.toList_append]
    decide +kernel
  exact ⟨_, _, .more happs (hholds _ (by simp)) firstPage_tells
      (.last (secondPage_reaches _) (hholds _ (by simp)) hempty),
    .cons (.last (slotsAddress_reaches _) (hholds _ (by simp)) hslot) .nil, List.prefix_rfl⟩

theorem find_paged_three_pages :
    (find Scope.development "rg" { client := pagedClient }).1 = .ok [⟨"a", none, "a", "rg", "web"⟩] := by
  obtain ⟨found, hrest, hmemory⟩ := find_paged Scope.development "rg" (w := { client := pagedClient })
    (v := { client := pagedMemory }) rfl (by decide) (by decide) rfl pagedClient_serves rfl
    ⟨by decide, by decide⟩
  rw [hrest, ← hmemory]
  rfl

end Witness

end Discovery

end WebAppTargets
