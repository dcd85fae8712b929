import Mathlib.Data.List.Nodup
import Mathlib.Data.List.Perm.Basic
import Mathlib.Data.Option.Basic
import WebAppTargets.Proofs.Enumeration
import WebAppTargets.Proofs.Registration

namespace WebAppTargets

open List (Perm)

section Filter

variable {α β : Type}

theorem filter_or_perm {p q : α → Bool} {l : List α} (h : ∀ a ∈ l, p a → q a = false) :
    Perm (l.filter fun a => p a || q a) (l.filter p ++ l.filter q) := by
  induction l with
  | nil => rfl
  | cons a l ih =>
      have ih := ih fun b hb => h b (List.mem_cons_of_mem a hb)
      cases hp : p a with
      | true =>
          have hq : q a = false := h a List.mem_cons_self hp
          simpa [hp, hq] using ih
      | false =>
          cases hq : q a with
          | true => simpa [hp, hq] using (ih.cons a).trans List.perm_middle.symm
          | false => simpa [hp, hq] using ih

theorem flatMap_filter_perm [BEq β] [LawfulBEq β] (key : α → β) (l : List α) {ks : List β}
    (h : ks.Nodup) :
    Perm (ks.flatMap fun k => l.filter fun a => key a == k) (l.filter fun a => ks.contains (key a)) := by
  induction ks with
  | nil => simp
  | cons k ks ih =>
      obtain ⟨hk, hks⟩ := List.nodup_cons.1 h
      have hdisjoint : ∀ a ∈ l, (key a == k) → ks.contains (key a) = false := by
        intro a _ ha
        rw [eq_of_beq ha]
        simpa using hk
      have hstep := ((ih hks).append_left _).trans (filter_or_perm hdisjoint).symm
      simpa only [List.contains_cons, List.flatMap_cons] using hstep

end Filter

namespace Memory

variable {m : Memory} {resourceGroup : String}

/-- The slots of a group are those of its web apps, if it has these and no two of one name. -/
theorem flatMap_slots_perm (hdistinct : ((m.webApps resourceGroup).map Resource.name).Nodup)
    (hparents : ∀ r ∈ m.resources, r.resourceGroup = resourceGroup → r.isSlot →
      ∃ a ∈ m.webApps resourceGroup, r.parent = some a.name) :
    Perm ((m.webApps resourceGroup).flatMap fun a => m.slots resourceGroup a.name)
      (m.resources.filter fun r => r.isSlot && r.resourceGroup == resourceGroup) := by
  let inGroup := m.resources.filter fun r => r.isSlot && r.resourceGroup == resourceGroup
  let parents := (m.webApps resourceGroup).map fun a => some a.name
  have hnodup : parents.Nodup := by
    have h := hdistinct.map (Option.some_injective _)
    rwa [List.map_map] at h
  have hslots : ((m.webApps resourceGroup).flatMap fun a => m.slots resourceGroup a.name) =
      parents.flatMap fun p => inGroup.filter fun r => r.parent == p := by
    simp only [parents, inGroup, List.flatMap_map, List.filter_filter, slots, Bool.and_comm]
  have hall : (inGroup.filter fun r => parents.contains r.parent) = inGroup := by
    apply List.filter_eq_self.2
    intro r hr
    obtain ⟨hr, hslot⟩ := List.mem_filter.1 hr
    rw [Bool.and_eq_true, beq_iff_eq] at hslot
    obtain ⟨a, ha, hp⟩ := hparents r hr hslot.2 hslot.1
    rw [List.contains_iff_mem, hp]
    exact List.mem_map_of_mem ha
  have hperm := flatMap_filter_perm Resource.parent inGroup hnodup
  rwa [← hslots, hall] at hperm

theorem enumeration_perm (hdistinct : ((m.webApps resourceGroup).map Resource.name).Nodup)
    (hparents : ∀ r ∈ m.resources, r.resourceGroup = resourceGroup → r.isSlot →
      ∃ a ∈ m.webApps resourceGroup, r.parent = some a.name) :
    Perm ((m.webApps resourceGroup).flatMap fun a => a :: m.slots resourceGroup a.name)
      (m.resources.filter fun r => r.resourceGroup == resourceGroup) := by
  have hheads := List.map_append_flatMap_perm (m.webApps resourceGroup) id
    fun a => m.slots resourceGroup a.name
  rw [List.map_id] at hheads
  have hkinds : Perm (m.resources.filter fun r => r.resourceGroup == resourceGroup)
      (m.webApps resourceGroup ++
        m.resources.filter fun r => r.isSlot && r.resourceGroup == resourceGroup) := by
    have h := filter_or_perm (l := m.resources) (p := fun r => !r.isSlot && r.resourceGroup == resourceGroup)
      (q := fun r => r.isSlot && r.resourceGroup == resourceGroup)
      (fun r _ hr => by cases hs : r.isSlot <;> simp_all)
    refine .trans (.of_eq ?_) h
    apply List.filter_congr
    intro r _
    cases r.isSlot <;> simp
  exact hheads.symm.trans (((flatMap_slots_perm hdistinct hparents).append_left _).trans hkinds.symm)

end Memory

/-- The match is that of the resource: it has nothing from any other. -/
structure Match.Tells (x : Match) (r : Resource) : Prop where
  target : x.target = if r.isSlot then s!"{r.siteName}/{r.name}" else r.name
  slot : x.slot = if r.isSlot then some r.name else none
  webApp : x.webApp = r.siteName
  resourceGroup : x.resourceGroup = r.resourceGroup
  role : r.tags.get? Scope.roleTag = some x.role

namespace Scope

variable (scope : Scope)

def Admits (r : Resource) : Prop :=
  r.tags.get? environmentTag = some scope.environment ∧
    ∃ role, r.tags.get? roleTag = some role ∧ scope.roles.contains role

theorem admits_of_match? {r : Resource} {x : Match} (h : scope.match? r = some x) :
    scope.Admits r ∧ x.Tells r := by
  obtain ⟨role, hrole, rfl⟩ := Option.map_eq_some_iff.1 h
  unfold matchingRole at hrole
  split at hrole
  · rename_i henv
    obtain ⟨htag, hin⟩ := Option.filter_eq_some_iff.1 hrole
    exact ⟨⟨henv, role, htag, hin⟩, rfl, rfl, rfl, rfl, htag⟩
  · cases hrole

theorem match?_eq_none_iff {r : Resource} : scope.match? r = none ↔ ¬scope.Admits r := by
  constructor
  · rintro h ⟨henv, role, htag, hin⟩
    obtain ⟨x, hx, -⟩ := match?_of_tags henv htag hin
    rw [h] at hx
    cases hx
  · intro h
    cases hx : scope.match? r with
    | none => rfl
    | some x => exact absurd (scope.admits_of_match? hx).1 h

instance (r : Resource) : Decidable (scope.Admits r) :=
  decidable_of_iff (scope.match? r ≠ none) <| by rw [ne_eq, match?_eq_none_iff, not_not]

theorem scan_forall₂ (l : List Resource) :
    List.Forall₂ Match.Tells (scope.scan l) (l.filter fun r => scope.Admits r) := by
  induction l with
  | nil => exact .nil
  | cons r l ih =>
      cases hx : scope.match? r with
      | none =>
          have hr := scope.match?_eq_none_iff.1 hx
          simpa [scan, hx, hr] using ih
      | some x =>
          obtain ⟨hr, htells⟩ := scope.admits_of_match? hx
          simpa [scan, hx, hr] using List.Forall₂.cons htells ih

end Scope

namespace Discovery

/-- In a group where no two web apps have one name and every slot is one of a listed web app, each
resource that the scope admits gives one match and nothing else gives any. The web apps come in the
order of the list, each before its slots, and these in the order of the list too. -/
theorem find_complete (scope : Scope) (resourceGroup : String) {w : World Memory}
    (herror : w.client.listError = none)
    (hdistinct : ((w.client.webApps resourceGroup).map Resource.name).Nodup)
    (hparents : ∀ r ∈ w.client.resources, r.resourceGroup = resourceGroup → r.isSlot →
      ∃ a ∈ w.client.webApps resourceGroup, r.parent = some a.name) :
    ∃ matched found,
      (find scope resourceGroup w).1 = .ok matched ∧
      List.Forall₂ Match.Tells matched found ∧
      Perm found
        (w.client.resources.filter fun r => r.resourceGroup = resourceGroup ∧ scope.Admits r) ∧
      found = (w.client.webApps resourceGroup).flatMap fun a =>
        (a :: w.client.slots resourceGroup a.name).filter fun r => scope.Admits r := by
  obtain ⟨m', hfind⟩ := Memory.find_ends herror scope resourceGroup
  refine ⟨_, _, (hfind w rfl).1, scope.scan_forall₂ _, ?_, List.filter_flatMap⟩
  have hperm := (Memory.enumeration_perm hdistinct hparents).filter fun r => scope.Admits r
  rw [List.filter_filter] at hperm
  refine hperm.trans (.of_eq (List.filter_congr fun r _ => ?_))
  rw [Bool.decide_and, beq_eq_decide, Bool.and_comm]

def webTags : Table String := .ofList [(Scope.environmentTag, "dev"), (Scope.roleTag, "web")]

def scattered : Memory where
  resources := [{ Resource.slot "b" "blue" "rg" with tags := webTags },
    { Resource.webApp "a" "rg" with tags := webTags },
    { Resource.webApp "a" "other" with tags := webTags },
    Resource.slot "a" "idle" "rg", Resource.webApp "b" "rg",
    { Resource.slot "a" "green" "rg" with tags := webTags }]

theorem find_complete_scattered :
    ∃ matched found, (find Scope.development "rg" { client := scattered }).1 = .ok matched ∧
      List.Forall₂ Match.Tells matched found ∧
      found = [{ Resource.webApp "a" "rg" with tags := webTags },
        { Resource.slot "a" "green" "rg" with tags := webTags },
        { Resource.slot "b" "blue" "rg" with tags := webTags }] := by
  obtain ⟨matched, found, hfind, htells, -, hfound⟩ :=
    find_complete Scope.development "rg" (w := { client := scattered }) rfl (by decide) (by decide)
  exact ⟨matched, found, hfind, htells, hfound.trans (by decide)⟩

end Discovery

end WebAppTargets
