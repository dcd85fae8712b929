import WebAppTargets.Proofs.Outcome
import WebAppTargets.Proofs.Paging

namespace WebAppTargets

open Json

namespace Page

def fields : List Field :=
  [.defaulted "value" [] (Decoder.list ListedSite.decode),
   .defaulted "nextLink" [] (Decoder.option Decoder.string)]

/-- Where a page says that the listing goes on: nowhere if the link is missing, `null` or empty. -/
inductive Links (record : Record) : Option String → Prop
  | missing (h : record.find "nextLink" = none) : Links record none
  | null (h : record.find "nextLink" = some .null) : Links record none
  | empty (h : record.find "nextLink" = some (.string (some ""))) : Links record none
  | next {url : String} (h : record.find "nextLink" = some (.string (some url))) (hurl : url ≠ "") :
      Links record (some url)

variable {record : Record} {link : Option String}

theorem links_of_getD (h : record.getD "nextLink" (Decoder.option Decoder.string) none = .ok link) :
    Links record (link.filter fun l => !l.isEmpty) := by
  have h := Record.getD_eq_ok_iff.1 h
  cases hfind : record.find "nextLink" with
  | none =>
      rw [hfind] at h
      cases h
      exact .missing hfind
  | some n =>
      rw [hfind] at h
      cases n with
      | null =>
          cases h
          exact .null hfind
      | string s =>
          cases s with
          | none => cases h
          | some s =>
              cases h
              by_cases hs : s = ""
              · subst hs
                exact .empty hfind
              · rw [Option.filter_some, if_pos (by simpa using hs)]
                exact .next hfind hs
      | _ => cases h

theorem Links.exists_getD (h : Links record link) :
    ∃ l, record.getD "nextLink" (Decoder.option Decoder.string) none = .ok l ∧
      link = l.filter fun l => !l.isEmpty := by
  simp only [Record.getD_eq_ok_iff]
  cases h with
  | missing h => exact ⟨none, by rw [h]; rfl, rfl⟩
  | null h => exact ⟨none, by rw [h]; rfl, rfl⟩
  | empty h => exact ⟨some "", by rw [h]; rfl, rfl⟩
  | @next url h hurl =>
      refine ⟨some url, by rw [h]; rfl, ?_⟩
      rw [Option.filter_some, if_pos (by simpa using hurl)]

end Page

structure Reply.Shows (reply : Reply) (p : Page) : Prop where
  success : reply.isSuccess
  body : ∃ record, decodeLetters (Decoder.record .text "Page" Page.fields) reply.body.letters = .ok record ∧
    record.getD "value" (Decoder.list ListedSite.decode) [] = .ok p.sites ∧ Page.Links record p.next

theorem Reply.shows_iff {reply : Reply} {p : Page} : reply.Shows p ↔ reply.read Page.decode = .ok p := by
  rw [read_eq_ok_iff]
  constructor
  · rintro ⟨hsuccess, record, hrecord, hsites, hlinks⟩
    obtain ⟨link, hlink, hnext⟩ := hlinks.exists_getD
    obtain ⟨q, hq, hend⟩ := bind_eq_ok_iff.1 hrecord
    obtain ⟨hmore, hend⟩ := unless_eq_ok_iff.1 hend
    cases hend
    refine ⟨hsuccess, bind_eq_ok_iff.2 ⟨p, ?_, unless_eq_ok_iff.2 ⟨hmore, rfl⟩⟩⟩
    refine bind_eq_ok_iff.2 ⟨record, hq, bind_eq_ok_iff.2 ⟨link, hlink, bind_eq_ok_iff.2 ⟨p.sites, hsites, ?_⟩⟩⟩
    rw [← hnext]
    rfl
  · rintro ⟨hsuccess, hbody⟩
    obtain ⟨q, hq, hend⟩ := bind_eq_ok_iff.1 hbody
    obtain ⟨hmore, hend⟩ := unless_eq_ok_iff.1 hend
    cases hend
    obtain ⟨record, hrecord, hq⟩ := bind_eq_ok_iff.1 hq
    obtain ⟨link, hlink, hq⟩ := bind_eq_ok_iff.1 hq
    obtain ⟨sites, hsites, hq⟩ := bind_eq_ok_iff.1 hq
    cases hq
    have hwhole : decodeLetters (Decoder.record .text "Page" Page.fields) reply.body.letters = .ok record :=
      bind_eq_ok_iff.2 ⟨record, hrecord, unless_eq_ok_iff.2 ⟨hmore, rfl⟩⟩
    exact ⟨hsuccess, record, hwhole, hsites, Page.links_of_getD hlink⟩

theorem Reply.Shows.eq {reply : Reply} {p q : Page} (hp : reply.Shows p) (hq : reply.Shows q) : p = q :=
  Except.ok.inj ((shows_iff.1 hp).symm.trans (shows_iff.1 hq))

structure Leaf where
  sites : List ListedSite
  next : String

def Leaf.page (l : Leaf) : Page := ⟨l.sites, l.next⟩

namespace Rest

open WebAppTargets.Action

def Shows (r : Rest) (pages : List Page) : Prop := ∀ i p, pages[i]? = some p → (r.reply i).Shows p

/-- How a listing that starts at an address can go, and which addresses it asks for: up to a page that
says nothing more, or to a reply that is no page, or to an address that no request gets through to. -/
inductive Turns (r : Rest) (start : String) : List String → Except Error (List ListedSite) → Prop
  | finished (before : List Leaf) (last : List ListedSite)
      (hreach : ∀ url ∈ start :: before.map Leaf.next, r.Reaches url)
      (hshown : r.Shows (before.map Leaf.page ++ [⟨last, none⟩])) :
      Turns r start (start :: before.map Leaf.next) (.ok (before.flatMap Leaf.sites ++ last))
  | refused (before : List Leaf) (hreach : ∀ url ∈ start :: before.map Leaf.next, r.Reaches url)
      (hshown : r.Shows (before.map Leaf.page)) (hbad : ¬(r.reply before.length).IsGood Page.decode) :
      Turns r start (start :: before.map Leaf.next) (.error (r.reply before.length).fault)
  | unsent (before : List Leaf) {sent : List String} {url : String}
      (hsent : start :: before.map Leaf.next = sent ++ [url]) (hreach : ∀ u ∈ sent, r.Reaches u)
      (hlost : ¬r.Reaches url) (hshown : r.Shows (before.map Leaf.page)) (cause : Error) :
      Turns r start sent (.error cause)

variable {r : Rest} {start : String} {sent : List String} {q : Except Error (List ListedSite)}

theorem Shows.nil : r.Shows [] := fun i p h => by simp at h

theorem Shows.cons {p : Page} {pages : List Page} (hp : (r.reply 0).Shows p) {asked : Request}
    (h : (r.after [asked]).Shows pages) : r.Shows (p :: pages) := by
  intro i x hx
  cases i with
  | zero => exact Option.some.inj hx ▸ hp
  | succ i =>
      have hlater := h i x hx
      rwa [reply_after, List.length_singleton, Nat.add_comm] at hlater

theorem Turns.cons {l : Leaf} (hstart : r.Reaches start) (hl : (r.reply 0).Shows l.page) {asked : Request}
    (h : (r.after [asked]).Turns l.next sent q) :
    r.Turns start (start :: sent) (q.map (l.sites ++ ·)) := by
  have hreply (n : Nat) : (r.after [asked]).reply n = r.reply (n + 1) := by
    rw [reply_after, List.length_singleton, Nat.add_comm]
  cases h with
  | finished before last hreach hshown =>
      rw [Except.map, ← List.append_assoc, ← List.flatMap_cons]
      exact .finished (l :: before) last (List.forall_mem_cons.2 ⟨hstart, hreach⟩) (.cons hl hshown)
  | refused before hreach hshown hbad =>
      rw [hreply] at hbad ⊢
      exact .refused (l :: before) (List.forall_mem_cons.2 ⟨hstart, hreach⟩) (.cons hl hshown) hbad
  | unsent before hsent hreach hlost hshown cause =>
      exact .unsent (l :: before) (congrArg (start :: ·) hsent) (List.forall_mem_cons.2 ⟨hstart, hreach⟩)
        hlost (.cons hl hshown) cause

section Unique

variable {before others : List Leaf} {last : List ListedSite} {n : Nat}

theorem Shows.of_append {pages more : List Page} (h : r.Shows (pages ++ more)) : r.Shows pages :=
  fun i p hp => h i p ((List.getElem?_append_left (List.getElem?_eq_some_iff.1 hp).1).trans hp)

theorem Shows.ends (h : r.Shows (before.map Leaf.page ++ [⟨last, none⟩])) :
    (r.reply before.length).Shows ⟨last, none⟩ :=
  h before.length _ (by simp)

theorem Shows.length_le (h : r.Shows (before.map Leaf.page))
    (hend : ∀ l : Leaf, ¬(r.reply n).Shows l.page) : before.length ≤ n := by
  by_contra hn
  have hn : n < before.length := Nat.lt_of_not_le hn
  exact hend before[n] (h n _ (by simp [hn]))

theorem Shows.isPrefix (hb : r.Shows (before.map Leaf.page)) (ho : r.Shows (others.map Leaf.page))
    (hle : before.length ≤ others.length) : before <+: others := by
  have hpage {l m : Leaf} (h : l.page = m.page) : l = m := by
    cases l
    cases m
    cases h
    rfl
  refine List.prefix_iff_getElem?.2 fun i hi => ?_
  have hi' : i < others.length := Nat.lt_of_lt_of_le hi hle
  have hsame := (ho i others[i].page (by simp [hi'])).eq (hb i before[i].page (by simp [hi]))
  rw [List.getElem?_eq_getElem hi', hpage hsame]

theorem not_shows_leaf (h : (r.reply n).Shows ⟨last, none⟩) (l : Leaf) : ¬(r.reply n).Shows l.page :=
  fun hl => nomatch congrArg Page.next (h.eq hl)

theorem not_shows_of_not_isGood {p : Page} (h : ¬(r.reply n).IsGood Page.decode) : ¬(r.reply n).Shows p :=
  fun hp => h (Reply.isGood_iff.2 ⟨p, Reply.shows_iff.1 hp⟩)

/-- A listing goes exactly as far as the pages link on, if all of their addresses are reached. Its
result is that of the reply at the end. -/
theorem Turns.eq_of_end (h : r.Turns start sent q)
    (hreach : ∀ url ∈ start :: before.map Leaf.next, r.Reaches url)
    (hshown : r.Shows (before.map Leaf.page))
    (hend : ∀ l : Leaf, ¬(r.reply before.length).Shows l.page) :
    sent = start :: before.map Leaf.next ∧
      ((∃ last, (r.reply before.length).Shows ⟨last, none⟩ ∧ q = .ok (before.flatMap Leaf.sites ++ last)) ∨
        (¬(r.reply before.length).IsGood Page.decode ∧ q = .error (r.reply before.length).fault)) := by
  have hsame {b : List Leaf} (hb : r.Shows (b.map Leaf.page))
      (hbend : ∀ l : Leaf, ¬(r.reply b.length).Shows l.page) : b = before :=
    (hb.isPrefix hshown (hb.length_le hend)).eq_of_length
      (Nat.le_antisymm (hb.length_le hend) (hshown.length_le hbend))
  cases h with
  | finished b last _ hb =>
      obtain rfl := hsame hb.of_append (not_shows_leaf hb.ends)
      exact ⟨rfl, .inl ⟨last, hb.ends, rfl⟩⟩
  | refused b _ hb hbad =>
      obtain rfl := hsame hb fun l => not_shows_of_not_isGood hbad
      exact ⟨rfl, .inr ⟨hbad, rfl⟩⟩
  | @unsent b _ url hsent _ hlost hb _ =>
      -- the address that is not reached would be one of those that the pages link to
      obtain ⟨more, rfl⟩ := hb.isPrefix hshown (hb.length_le hend)
      have hmem : url ∈ start :: (b ++ more).map Leaf.next := by
        rw [List.map_append, ← List.cons_append, hsent]
        simp
      exact absurd (hreach url hmem) hlost

theorem Turns.eq_finished (h : r.Turns start sent q)
    (hreach : ∀ url ∈ start :: before.map Leaf.next, r.Reaches url)
    (hshown : r.Shows (before.map Leaf.page ++ [⟨last, none⟩])) :
    sent = start :: before.map Leaf.next ∧ q = .ok (before.flatMap Leaf.sites ++ last) := by
  obtain ⟨hsent, ⟨sites, hsites, hq⟩ | ⟨hbad, -⟩⟩ :=
    h.eq_of_end hreach hshown.of_append (not_shows_leaf hshown.ends)
  · cases hshown.ends.eq hsites
    exact ⟨hsent, hq⟩
  · exact absurd hshown.ends (not_shows_of_not_isGood hbad)

theorem Turns.eq_refused (h : r.Turns start sent q)
    (hreach : ∀ url ∈ start :: before.map Leaf.next, r.Reaches url)
    (hshown : r.Shows (before.map Leaf.page)) (hbad : ¬(r.reply before.length).IsGood Page.decode) :
    sent = start :: before.map Leaf.next ∧ q = .error (r.reply before.length).fault := by
  obtain ⟨hsent, ⟨sites, hsites, -⟩ | ⟨-, hq⟩⟩ :=
    h.eq_of_end hreach hshown fun l => not_shows_of_not_isGood hbad
  · exact absurd hsites (not_shows_of_not_isGood hbad)
  · exact ⟨hsent, hq⟩

end Unique

section Asking

variable (hopen : r.isOpen)

include hopen

theorem page_turns (f : Page → Action Rest (List ListedSite))
    (hend : ∀ p : Page, p.next = none → ∀ r, Ends r (f p) (.ok p.sites) r)
    (hnext : ∀ l : Leaf, (r.reply 0).Shows l.page →
      ∃ sent q, (r.after [⟨.get, start, r.token, none⟩]).Turns l.next sent q ∧
        Ends (r.after [⟨.get, start, r.token, none⟩]) (f l.page) (q.map (l.sites ++ ·))
          (r.after (⟨.get, start, r.token, none⟩ :: sent.map fun url => ⟨.get, url, r.token, none⟩))) :
    ∃ sent q, r.Turns start sent q ∧ Ends r (request Page.decode .get start >>= f) q
      (r.after (sent.map fun url => ⟨.get, url, r.token, none⟩)) := by
  by_cases hreach : r.Reaches start
  · have hx := request_ends hopen .get none Page.decode hreach
    cases hread : (r.reply 0).read Page.decode with
    | error e =>
        have hbad : ¬(r.reply 0).IsGood Page.decode := by
          rw [Reply.isGood_iff, hread]
          exact nofun
        rw [Reply.read_of_not_isGood hbad] at hx
        exact ⟨_, _, .refused [] (List.forall_mem_singleton.2 hreach) .nil hbad, hx.bind_error⟩
    | ok p =>
        have hshows := Reply.shows_iff.2 hread
        rw [hread] at hx
        cases hp : p.next with
        | none =>
            have hnil : (r.after [⟨.get, start, r.token, none⟩]).Shows [] := .nil
            have hlast : r.Shows [⟨p.sites, none⟩] := by
              refine .cons ?_ hnil
              rw [← hp]
              exact hshows
            exact ⟨_, _, .finished [] p.sites (List.forall_mem_singleton.2 hreach) hlast,
              hx.bind (hend p hp _)⟩
        | some next =>
            have hpage : p = (⟨p.sites, next⟩ : Leaf).page := by rw [Leaf.page, ← hp]
            rw [hpage] at hshows hx
            obtain ⟨sent, q, hturns, hends⟩ := hnext _ hshows
            exact ⟨_, _, hturns.cons hreach hshows, hx.bind hends⟩
  · obtain ⟨reason, he⟩ := request_ends_of_not_reaches hopen .get none Page.decode hreach
    refine ⟨[], _, .unsent [] rfl (List.forall_mem_nil _) hreach .nil (.other reason), ?_⟩
    rw [List.map_nil, after_nil]
    exact he.bind_error

end Asking

theorem pages_turns {n : Nat} (hn : r.network.replies.length ≤ n) (hopen : r.isOpen) (start : String) :
    ∃ sent q, r.Turns start sent q ∧
      Ends r (pages n start) q (r.after (sent.map fun url => ⟨.get, url, r.token, none⟩)) := by
  -- on the bound, which no listing reaches: each page takes a reply
  induction n generalizing r start with
  | zero =>
      refine page_turns hopen _ (fun p _ r => Ends.value r p.sites) fun l hl => ?_
      have hreplies : r.network.replies = [] := List.length_eq_zero_iff.1 (Nat.le_zero.1 hn)
      rw [Rest.reply, hreplies] at hl
      exact absurd hl.success (by decide)
  | succ n ih =>
      refine page_turns hopen _ (fun p hp r => ?_) fun l hl => ?_
      · rw [hp]
        exact Ends.value r p.sites
      · have hfewer : (r.after [⟨.get, start, r.token, none⟩]).network.replies.length ≤ n := by
          simpa [after] using hn
        obtain ⟨sent, q, hturns, hends⟩ := ih hfewer hopen l.next
        rw [after_after] at hends
        refine ⟨sent, q, hturns, ?_⟩
        cases q with
        | error e => exact hends.bind_error
        | ok sites => exact hends.bind (Ends.value _ _)

theorem listing_turns (hopen : r.isOpen) (start : String) :
    ∃ sent q, r.Turns start sent q ∧
      Ends r (listing start) q (r.after (sent.map fun url => ⟨.get, url, r.token, none⟩)) := by
  obtain ⟨sent, q, hturns, hends⟩ := pages_turns le_rfl hopen start
  exact ⟨sent, q, hturns, (Ends.client r).bind hends⟩

end Rest

inductive Listing where
  | webApps (resourceGroup : String)
  | slots (resourceGroup webApp : String)

namespace Listing

open WebAppTargets.Action

def ask {σ : Type} [Client σ] : Listing → Action σ (List Resource)
  | .webApps rg => Client.listWebApps rg
  | .slots rg app => Client.listSlots rg app

def IsValid : Listing → Prop
  | .webApps rg => Naming.checkResourceGroup rg = .ok ()
  | .slots rg app => Naming.checkResourceGroup rg = .ok () ∧ Naming.checkWebApp app = .ok ()

def start (r : Rest) : Listing → String
  | .webApps rg => r.appsAddress rg
  | .slots rg app => r.slotsAddress rg app

/-- What a listed site becomes. A slot has the last part of its name that is cut at the slashes, and all
of it if there are none. -/
def resource : Listing → ListedSite → Resource
  | .webApps rg, s =>
      { name := s.name, resourceGroup := rg, isSlot := false, parent := none, tags := s.tags,
        plan := s.plan, lastModified := s.lastModified }
  | .slots rg app, s =>
      { name := String.ofList ((s.name.toList.splitOn '/').getLastD []), resourceGroup := rg,
        isSlot := true, parent := some app, tags := s.tags, plan := s.plan,
        lastModified := s.lastModified }

theorem resource_slots (rg app : String) : (slots rg app).resource = (·.slot rg app) := by
  funext s
  rw [resource, ← Text.afterLast_eq]
  rfl

def failure : Listing → Error → Error
  | .webApps rg => .operation "arm" "list-web-apps" rg
  | .slots _ app => .operation "arm" "list-slots" app

theorem ask_ends (l : Listing) {r : Rest} {q : Except Error (List ListedSite)} {sent : List Request}
    (hvalid : l.IsValid) (h : Ends r (Rest.listing (l.start r)) q (r.after sent)) :
    Ends r l.ask ((q.map (List.map l.resource)).mapError l.failure) (r.after sent) := by
  cases l with
  | webApps rg =>
      refine (Rest.locate_ends (Rest.groupUrl_eq r hvalid) _).bind ?_
      cases q with
      | error e => exact (h.inContext _).bind_error
      | ok sites => exact (h.inContext _).bind (Ends.value _ _)
  | slots rg app =>
      rw [resource_slots]
      refine (Rest.locate_ends (Rest.webAppUrl_eq r hvalid.1 hvalid.2) _).bind ?_
      cases q with
      | error e => exact (h.inContext _).bind_error
      | ok sites => exact (h.inContext _).bind (Ends.value _ _)

/-- On an open client a listing asks for its first page and then for each page that the one before
links to, in this order and once each, whatever the replies are. It gives the sites of all pages in
their order, or it fails and gives none. -/
theorem ask_turns (l : Listing) {w : World Rest} (hopen : w.client.isOpen) (hvalid : l.IsValid) :
    ∃ sent q, w.client.Turns (l.start w.client) sent q ∧
      (l.ask w).1 = (q.map (List.map l.resource)).mapError l.failure ∧
      (l.ask w).2.client = w.client.after (sent.map fun url => ⟨.get, url, w.client.token, none⟩) := by
  obtain ⟨sent, q, hturns, hends⟩ := Rest.listing_turns hopen (l.start w.client)
  obtain ⟨hresult, hclient⟩ := l.ask_ends hvalid hends w rfl
  exact ⟨sent, q, hturns, hresult, hclient⟩

section Witness

open Discovery (firstPage firstPage_tells pageJson pageJson_tells pagedFamily secondPage_reaches
  slotsAddress_reaches webTags)

def detailedJson : Value :=
  .ofFields [("name", .string "a/blue"), ("tags", .null), ("properties", .ofFields
    [("serverFarmId", .string "plan"), ("lastModifiedTimeUtc", .string "2023-04-05T06:07:08")])]

def lastPage : Value := pageJson [detailedJson] .null

def wholeClient : Rest := .loopback ([firstPage, lastPage].map fun v => ⟨200, v.text⟩)

def brokenClient : Rest := .loopback [⟨200, firstPage.text⟩, ⟨500, "down"⟩]

def firstLeaf : Leaf := ⟨[pagedFamily.app], "http://[::1]/2"⟩

def detailedSite : ListedSite := ⟨"a/blue", .empty, some "plan", some ⟨1680674828, 0⟩⟩

theorem detailedJson_tells : TellsSite detailedJson detailedSite where
  record := ⟨_, rfl, (by decide : ["name", "tags", "properties"].Nodup)⟩
  name := rfl
  tags := ⟨none, .null, rfl⟩
  details := by
    have hrecord : ["serverFarmId", "lastModifiedTimeUtc"].Nodup := by decide
    refine ⟨some (some "plan", some "2023-04-05T06:07:08"), .given ⟨⟨_, rfl, hrecord⟩, ?_, ?_⟩, rfl, ?_⟩
    · exact .given rfl
    · exact .given rfl
    · decide +kernel

theorem firstPage_shows : (⟨200, firstPage.text⟩ : Reply).Shows firstLeaf.page := by
  have hfirst : Reply.Holds ⟨200, firstPage.text⟩ firstPage := Renders.holds (by decide +kernel)
  exact Reply.shows_iff.2 (hfirst.read_eq firstPage_tells.decode_node)

theorem lastPage_shows : (⟨200, lastPage.text⟩ : Reply).Shows ⟨[detailedSite], none⟩ := by
  have hlast : Reply.Holds ⟨200, lastPage.text⟩ lastPage := Renders.holds (by decide +kernel)
  exact Reply.shows_iff.2
    (hlast.read_eq (pageJson_tells (.cons detailedJson_tells .nil) .null).decode_node)

theorem firstLeaf_reaches (replies : List Reply) :
    ∀ url ∈ (Rest.loopback replies).slotsAddress "rg" "a" :: [firstLeaf].map Leaf.next,
      (Rest.loopback replies).Reaches url :=
  List.forall_mem_cons.2 ⟨slotsAddress_reaches _, List.forall_mem_singleton.2 (secondPage_reaches _)⟩

theorem ask_turns_two_pages :
    (((slots "rg" "a").ask { client := wholeClient }).1 =
        .ok [{ name := "a", resourceGroup := "rg", isSlot := true, parent := some "a", tags := webTags },
          { name := "blue", resourceGroup := "rg", isSlot := true, parent := some "a",
            plan := some "plan", lastModified := some ⟨1680674828, 0⟩ }] ∧
      ((slots "rg" "a").ask { client := wholeClient }).2.client =
        wholeClient.after ([wholeClient.slotsAddress "rg" "a", "http://[::1]/2"].map
          fun url => ⟨.get, url, "token", none⟩)) ∧
    ((slots "rg" "a").ask { client := brokenClient }).1 =
        .error (.operation "arm" "list-slots" "a" (.http 500 "down")) ∧
      ((slots "rg" "a").ask { client := brokenClient }).2.client =
        brokenClient.after ([brokenClient.slotsAddress "rg" "a", "http://[::1]/2"].map
          fun url => ⟨.get, url, "token", none⟩) := by
  have hnil (r : Rest) : (r.after [⟨.get, "", "", none⟩]).Shows [] := .nil
  constructor
  · obtain ⟨sent, q, hturns, hresult, hclient⟩ :=
      ask_turns (.slots "rg" "a") (w := { client := wholeClient }) rfl ⟨rfl, rfl⟩
    have hlast : (wholeClient.after [⟨.get, "", "", none⟩]).Shows [⟨[detailedSite], none⟩] :=
      .cons lastPage_shows (hnil _)
    have hshown : wholeClient.Shows ([firstLeaf].map Leaf.page ++ [⟨[detailedSite], none⟩]) :=
      .cons firstPage_shows hlast
    obtain ⟨rfl, rfl⟩ := hturns.eq_finished (firstLeaf_reaches _) hshown
    exact ⟨hresult, hclient⟩
  · obtain ⟨sent, q, hturns, hresult, hclient⟩ :=
      ask_turns (.slots "rg" "a") (w := { client := brokenClient }) rfl ⟨rfl, rfl⟩
    have hshown : brokenClient.Shows ([firstLeaf].map Leaf.page) := .cons firstPage_shows (hnil _)
    have hbad : ¬(brokenClient.reply 1).IsGood Page.decode := fun h => nomatch h.1
    obtain ⟨rfl, rfl⟩ := hturns.eq_refused (firstLeaf_reaches _) hshown hbad
    exact ⟨hresult, hclient⟩

end Witness

end Listing

end WebAppTargets
