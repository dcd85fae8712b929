import WebAppTargets.Proofs.Exchange
import WebAppTargets.Proofs.Outcome

namespace WebAppTargets

namespace Naming

/-- The characters that part an address, or stand for others in one. -/
def delimiters : List Char := ['/', '?', '#', '%', '\\']

def reservedRanges : List (Nat × Nat) :=
  [(0x9, 0xD), (0x20, 0x20), (0x23, 0x23), (0x25, 0x25), (0x2F, 0x2F), (0x3F, 0x3F), (0x5C, 0x5C),
   (0x85, 0x85), (0xA0, 0xA0), (0x1680, 0x1680), (0x2000, 0x200A), (0x2028, 0x2029),
   (0x202F, 0x202F), (0x205F, 0x205F), (0x3000, 0x3000)]

def isReserved (c : Char) : Bool := reservedRanges.any fun (lo, hi) => lo ≤ c.toNat && c.toNat ≤ hi

theorem isReserved_of_mem_delimiters : ∀ c ∈ delimiters, isReserved c := by
  simp [delimiters, isReserved, reservedRanges]

theorem isReserved_of_isBlank {c : Char} (h : Text.isBlank c) : isReserved c := by
  simp only [Text.isBlank, Bool.or_eq_true, Bool.and_eq_true, decide_eq_true_eq, beq_iff_eq] at h
  simp only [isReserved, reservedRanges, List.any_cons, List.any_nil, Bool.or_eq_true,
    Bool.and_eq_true, decide_eq_true_eq]
  omega

theorem ranges_apart :
    ∀ p ∈ Text.alphanumericRanges, ∀ q ∈ reservedRanges, p.2 < q.1 ∨ q.2 < p.1 := by
  decide +kernel

theorem not_isReserved_of_isAlphanumeric {c : Char} (h : Text.isAlphanumeric c) : ¬isReserved c := by
  intro hreserved
  obtain ⟨p, hp, hpc⟩ := List.any_eq_true.1 h
  obtain ⟨q, hq, hqc⟩ := List.any_eq_true.1 hreserved
  rw [Bool.and_eq_true, decide_eq_true_iff, decide_eq_true_iff] at hpc hqc
  have := ranges_apart p hp q hq
  omega

theorem not_isReserved_of_isGroupCharacter {c : Char} (h : isGroupCharacter c) : ¬isReserved c := by
  simp only [isGroupCharacter, Bool.or_eq_true, beq_iff_eq] at h
  rcases h with ((((h | rfl) | rfl) | rfl) | rfl) | rfl
  · exact not_isReserved_of_isAlphanumeric h
  all_goals decide

theorem isAlphanumeric_of_isAlphanum {c : Char} (h : c.isAlphanum) : Text.isAlphanumeric c := by
  delta Char.isAlphanum Char.isAlpha Char.isUpper Char.isLower Char.isDigit at h
  simp only [Bool.or_eq_true, Bool.and_eq_true, decide_eq_true_eq, ge_iff_le,
    UInt32.le_iff_toNat_le] at h
  have hin {lo hi : Nat} (hmem : (lo, hi) ∈ Text.alphanumericRanges) (hlo : lo ≤ c.toNat)
      (hhi : c.toNat ≤ hi) : Text.isAlphanumeric c :=
    List.any_eq_true.2 ⟨_, hmem, by simp [hlo, hhi]⟩
  rcases h with (h | h) | h
  · exact hin (.tail _ (.head _)) h.1 h.2
  · exact hin (.tail _ (.tail _ (.head _))) h.1 h.2
  · exact hin (.head _) h.1 h.2

theorem isGroupCharacter_of_isHostCharacter {c : Char} (h : isHostCharacter c) :
    isGroupCharacter c ∧ c ≠ '.' := by
  simp only [isHostCharacter, Bool.or_eq_true, beq_iff_eq] at h
  rcases h with h | rfl
  · refine ⟨by simp [isGroupCharacter, isAlphanumeric_of_isAlphanum h], ?_⟩
    rintro rfl
    revert h
    decide
  · exact ⟨by simp [isGroupCharacter], by decide⟩

/-- A name that is one segment of a path, whoever reads the path. -/
structure Plain (name : String) : Prop where
  undelimited : ∀ c ∈ delimiters, c ∉ name.toList
  unblank : ∀ c ∈ name.toList, Text.isBlank c = false
  not_dot : name ≠ "."
  not_dots : name ≠ ".."

theorem plain_of_all {name : String} (h : ∀ c ∈ name.toList, isGroupCharacter c)
    (hend : name.toList.getLast? ≠ some '.') : Plain name where
  undelimited c hc hmem :=
    not_isReserved_of_isGroupCharacter (h c hmem) (isReserved_of_mem_delimiters c hc)
  unblank c hmem := by
    rw [← Bool.not_eq_true]
    exact fun hc => not_isReserved_of_isGroupCharacter (h c hmem) (isReserved_of_isBlank hc)
  not_dot := by
    rintro rfl
    exact hend rfl
  not_dots := by
    rintro rfl
    exact hend rfl

variable {name : String}

theorem plain_of_checkResourceGroup (h : checkResourceGroup name = .ok ()) : Plain name := by
  unfold checkResourceGroup at h
  dsimp only at h
  split at h
  · cases h
  · split at h
    · cases h
    · split at h
      · cases h
      · rename_i hall
        split at h
        · cases h
        · rename_i hend
          exact plain_of_all (by simpa using hall) (by simpa using hend)

theorem isHostCharacter_of_checkHost {what : String} {limit : Nat}
    (h : checkHost what limit name = .ok ()) : ∀ c ∈ name.toList, isHostCharacter c := by
  unfold checkHost at h
  dsimp only at h
  split at h
  · cases h
  · split at h
    · cases h
    · split at h
      · cases h
      · rename_i hall
        simpa using hall

theorem plain_of_checkHost {what : String} {limit : Nat} (h : checkHost what limit name = .ok ()) :
    Plain name := by
  have hall := isHostCharacter_of_checkHost h
  refine plain_of_all (fun c hc => (isGroupCharacter_of_isHostCharacter (hall c hc)).1) fun hend => ?_
  exact (isGroupCharacter_of_isHostCharacter (hall '.' (List.mem_of_getLast? hend))).2 rfl

end Naming

/-- What an address of the service locates: the web apps of a resource group, one of them or one of its
slots, or something further down from there. -/
structure Location where
  resourceGroup : String
  webApp : Option String := none
  slot : Option String := none
  tail : List String := []
  deriving DecidableEq

namespace Location

variable (l : Location)

def ofSite (s : Site) (tail : List String) : Location :=
  ⟨s.resourceGroup, some s.webApp, s.slot, tail⟩

def names : List String := l.resourceGroup :: (l.webApp.toList ++ l.slot.toList)

def segments : List String :=
  ["resourceGroups", l.resourceGroup, "providers", "Microsoft.Web", "sites"] ++ l.webApp.toList ++
    (l.slot.map fun slot => ["slots", slot]).getD [] ++ l.tail

def path : List Char := List.intercalate ['/'] (l.segments.map String.toList)

def words : List String := ["resourceGroups", "providers", "Microsoft.Web", "sites", "slots"]

theorem segments_subset : l.segments ⊆ words ++ l.names ++ l.tail := by
  obtain ⟨_, webApp, slot, _⟩ := l
  cases webApp <;> cases slot <;> grind [segments, words, names]

variable {l}

theorem splitOn_path (hplain : ∀ name ∈ l.names, Naming.Plain name)
    (htail : ∀ part ∈ l.tail, '/' ∉ part.toList) :
    l.path.splitOn '/' = l.segments.map String.toList := by
  apply List.splitOn_intercalate
  · rw [List.forall_mem_map]
    intro part hpart
    rcases List.mem_append.1 (segments_subset l hpart) with h | h
    · rcases List.mem_append.1 h with h | h
      · have hwords : ∀ word ∈ words, '/' ∉ word.toList := by decide
        exact hwords part h
      · exact (hplain part h).undelimited '/' (by decide)
    · exact htail part h
  · simp [segments]

theorem ofSite_injective {s t : Site} (h : (ofSite s []).segments = (ofSite t []).segments) : s = t := by
  obtain ⟨_, _, slot⟩ := s
  obtain ⟨_, _, slot'⟩ := t
  cases slot <;> cases slot' <;> simp_all [ofSite, segments]

end Location

theorem Location.plain_of_validate {s : Site} (h : s.validate = .ok ()) (tail : List String) :
    ∀ name ∈ (ofSite s tail).names, Naming.Plain name := by
  obtain ⟨hgroup, happ, hslot⟩ := Site.validate_eq_ok_iff.1 h
  simp only [ofSite, names, List.forall_mem_cons, Option.toList_some, List.singleton_append]
  refine ⟨Naming.plain_of_checkResourceGroup hgroup, Naming.plain_of_checkHost happ, ?_⟩
  intro name hname
  exact Naming.plain_of_checkHost (hslot name (Option.mem_toList.1 hname))

namespace Rest

variable (r : Rest)

def root : String := s!"{r.base}/subscriptions/{r.account.subscription}/"

/-- The address has a path under the subscription that leads to the location. -/
structure Locates (l : Location) (url : String) : Prop where
  plain : ∀ name ∈ l.names, Naming.Plain name
  path : ∃ path : List Char,
    url.toList = r.root.toList ++ path ++ s!"?api-version={r.version}".toList ∧
      path.splitOn '/' = l.segments.map String.toList

theorem intercalate_cons (c : Char) (a : List Char) (l : List (List Char)) :
    List.intercalate [c] (a :: l) = a ++ l.flatMap (c :: ·) := by
  induction l generalizing a with
  | nil => simp [List.intercalate]
  | cons b l ih => rw [List.intercalate_cons_cons, ih]; simp

theorem groupAddress_eq (resourceGroup : String) :
    (r.groupAddress resourceGroup ++ "/sites").toList =
      r.root.toList ++ Location.path { resourceGroup } := by
  simp [groupAddress, root, Location.path, Location.segments, toString]

theorem webAppAddress_eq (resourceGroup webApp : String) (tail : List String) :
    (r.webAppAddress resourceGroup webApp).toList ++ tail.flatMap (fun part => '/' :: part.toList) =
      r.root.toList ++ Location.path { resourceGroup, webApp, tail } := by
  simp [webAppAddress, groupAddress, root, Location.path, Location.segments, toString,
    intercalate_cons, List.flatMap_map]

theorem siteAddress_eq (s : Site) (tail : List String) :
    (r.siteAddress s).toList ++ tail.flatMap (fun part => '/' :: part.toList) =
      r.root.toList ++ (Location.ofSite s tail).path := by
  obtain ⟨rg, app, slot⟩ := s
  cases slot with
  | none => exact webAppAddress_eq r rg app tail
  | some slot =>
      simp [siteAddress, webAppAddress, groupAddress, root, Location.path, Location.segments,
        Location.ofSite, toString, intercalate_cons, List.flatMap_map]

variable {r}

theorem locates_versioned {l : Location} {text : String}
    (hplain : ∀ name ∈ l.names, Naming.Plain name) (htail : ∀ part ∈ l.tail, '/' ∉ part.toList)
    (htext : text.toList = r.root.toList ++ l.path) : r.Locates l (r.versioned text) where
  plain := hplain
  path := ⟨l.path, by simp [versioned, toString, htext], Location.splitOn_path hplain htail⟩

section Inversion

variable {resourceGroup webApp text : String} {s : Site}

theorem groupUrl_eq_ok_iff :
    r.groupUrl resourceGroup = .ok text ↔
      Naming.checkResourceGroup resourceGroup = .ok () ∧ text = r.groupAddress resourceGroup := by
  constructor
  · intro h
    obtain ⟨_, hgroup, -⟩ := bind_eq_ok_iff.1 h
    rw [mapError_eq_ok_iff] at hgroup
    rw [groupUrl_eq r hgroup] at h
    exact ⟨hgroup, (Except.ok.inj h).symm⟩
  · rintro ⟨hgroup, rfl⟩
    exact groupUrl_eq r hgroup

theorem webAppUrl_eq_ok_iff :
    r.webAppUrl resourceGroup webApp = .ok text ↔
      Naming.checkResourceGroup resourceGroup = .ok () ∧ Naming.checkWebApp webApp = .ok () ∧
        text = r.webAppAddress resourceGroup webApp := by
  constructor
  · intro h
    obtain ⟨_, happ, hrest⟩ := bind_eq_ok_iff.1 h
    obtain ⟨_, hgroup, -⟩ := bind_eq_ok_iff.1 hrest
    rw [mapError_eq_ok_iff] at happ
    have hgroup := (groupUrl_eq_ok_iff.1 hgroup).1
    rw [webAppUrl_eq r hgroup happ] at h
    exact ⟨hgroup, happ, (Except.ok.inj h).symm⟩
  · rintro ⟨hgroup, happ, rfl⟩
    exact webAppUrl_eq r hgroup happ

theorem siteUrl_eq_ok_iff :
    r.siteUrl s = .ok text ↔ s.validate = .ok () ∧ text = r.siteAddress s := by
  constructor
  · intro h
    obtain ⟨_, hs, -⟩ := bind_eq_ok_iff.1 h
    rw [siteUrl_eq r hs] at h
    exact ⟨hs, (Except.ok.inj h).symm⟩
  · rintro ⟨hs, rfl⟩
    exact siteUrl_eq r hs

end Inversion

theorem locates_group {resourceGroup text : String} (h : r.groupUrl resourceGroup = .ok text) :
    r.Locates { resourceGroup } (r.versioned (text ++ "/sites")) := by
  obtain ⟨hgroup, rfl⟩ := groupUrl_eq_ok_iff.1 h
  refine locates_versioned ?_ (by simp) (groupAddress_eq r resourceGroup)
  simpa [Location.names] using Naming.plain_of_checkResourceGroup hgroup

section Part

variable (part : String) (tail : List String) (htail : ∀ p ∈ tail, '/' ∉ p.toList)
  (hpart : part.toList = tail.flatMap fun p => '/' :: p.toList)

include htail hpart

theorem locates_webApp {resourceGroup webApp text : String}
    (h : r.webAppUrl resourceGroup webApp = .ok text) :
    r.Locates { resourceGroup, webApp, tail } (r.versioned (text ++ part)) := by
  obtain ⟨hgroup, happ, rfl⟩ := webAppUrl_eq_ok_iff.1 h
  refine locates_versioned ?_ htail ?_
  · simpa [Location.names] using
      ⟨Naming.plain_of_checkResourceGroup hgroup, Naming.plain_of_checkHost happ⟩
  · rw [String.toList_append, hpart, webAppAddress_eq]

theorem locates_site {s : Site} {text : String} (h : r.siteUrl s = .ok text) :
    r.Locates (.ofSite s tail) (r.versioned (text ++ part)) := by
  obtain ⟨hs, rfl⟩ := siteUrl_eq_ok_iff.1 h
  refine locates_versioned (Location.plain_of_validate hs tail) htail ?_
  rw [String.toList_append, hpart, siteAddress_eq]

end Part

theorem siteUrl_injective {s t : Site} {text : String} (hs : r.siteUrl s = .ok text)
    (ht : r.siteUrl t = .ok text) : s = t := by
  obtain ⟨hsvalid, rfl⟩ := siteUrl_eq_ok_iff.1 hs
  obtain ⟨htvalid, heq⟩ := siteUrl_eq_ok_iff.1 ht
  have hpath : (Location.ofSite s []).path = (Location.ofSite t []).path := by
    have hs := siteAddress_eq r s []
    rw [heq, siteAddress_eq] at hs
    exact (List.append_cancel_left hs).symm
  have hsplit {s : Site} (hs : s.validate = .ok ()) :
      (Location.ofSite s []).path.splitOn '/' = (Location.ofSite s []).segments.map String.toList :=
    Location.splitOn_path (Location.plain_of_validate hs []) (by simp [Location.ofSite])
  apply Location.ofSite_injective
  refine (List.map_inj_right fun _ _ => String.toList_inj.1).1 ?_
  rw [← hsplit hsvalid, hpath, hsplit htvalid]

end Rest

end WebAppTargets
