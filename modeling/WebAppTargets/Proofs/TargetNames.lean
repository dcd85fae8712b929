import WebAppTargets.Proofs.Completeness
import WebAppTargets.Proofs.SiteNames

namespace WebAppTargets

/-- A resource of the group as clients make it, with names within the rules. -/
structure Resource.Named (resourceGroup : String) (r : Resource) : Prop where
  made : r.Made
  group : r.resourceGroup = resourceGroup
  webApp : Naming.checkWebApp r.siteName = .ok ()
  slot : r.isSlot → Naming.checkSlot r.name = .ok ()

namespace Site

variable {app : String}

theorem parse_webApp (rg : String) (happ : Naming.checkWebApp app = .ok ()) :
    parse rg app none = of rg app none := by
  have hmark := Naming.marks_not_mem happ
  have hsplits : Splits app.toList app.toList none := .plain (hmark _ (by simp)) (hmark _ (by simp))
  have hstripped : String.ofList (Text.trim app.toList) = app := Naming.stripped_of_checkHost happ
  rw [parse_unnamed hsplits (by simp), hstripped, Option.map_none]

theorem parse_joined (rg : String) (happ : Naming.checkWebApp app = .ok ()) (slot : String) :
    parse rg s!"{app}/{slot}" none = of rg app (some slot) := by
  have htext : (s!"{app}/{slot}").toList = app.toList ++ '/' :: slot.toList := by simp [toString]
  have hsplits : Splits (s!"{app}/{slot}").toList app.toList (some slot.toList) := by
    rw [htext]
    exact .slash slot.toList (Naming.marks_not_mem happ _ (by simp))
  have hstripped : String.ofList (Text.trim app.toList) = app := Naming.stripped_of_checkHost happ
  rw [parse_unnamed hsplits (by simp), hstripped, Option.map_some, String.ofList_toList]

end Site

/-- The match is that of the resource, and in the group the name of its target leads back to the site of
both. -/
structure Match.Identifies (resourceGroup : String) (m : Match) (r : Resource) : Prop where
  tells : m.Tells r
  parsed : Site.parse resourceGroup m.target none = r.site
  told : r.site = ⟨resourceGroup, m.webApp, m.slot⟩

theorem Match.Tells.identifies {m : Match} {r : Resource} {resourceGroup : String} (h : m.Tells r)
    (hr : r.Named resourceGroup) : m.Identifies resourceGroup r := by
  refine ⟨h, ?_, ?_⟩
  · rw [h.target, hr.made.site_eq, hr.group]
    cases hslot : r.isSlot with
    | false =>
        have hname : r.siteName = r.name := by
          obtain ⟨_⟩ | ⟨_⟩ := hr.made
          · rfl
          · cases hslot
        rw [if_neg Bool.false_ne_true, if_neg Bool.false_ne_true, ← hname, Site.parse_webApp _ hr.webApp]
    | true => rw [if_pos rfl, if_pos rfl, Site.parse_joined _ hr.webApp]
  · rw [hr.made.site_eq, hr.group, h.webApp, h.slot]
    cases hslot : r.isSlot with
    | false => rfl
    | true =>
        have hblank := Naming.not_blank_of_checkHost (hr.slot hslot)
        rw [if_pos rfl, Site.of, Option.filter_some, hblank]
        rfl

namespace Scope

variable (scope : Scope) {resourceGroup : String} {l : List Resource}

theorem scan_identifies (hl : ∀ r ∈ l, r.Named resourceGroup) :
    List.Forall₂ (Match.Identifies resourceGroup) (scope.scan l) (l.filter fun r => scope.Admits r) := by
  have hnamed : ∀ r ∈ l.filter fun r => scope.Admits r, r.Named resourceGroup :=
    fun r hr => hl r (List.mem_of_mem_filter hr)
  have hboth := (List.forall₂_and_left _ _).2 ⟨hnamed, (scope.scan_forall₂ l).flip⟩
  exact (hboth.imp fun r m h => h.2.identifies h.1).flip

/-- Resources of one group with distinct sites are registered under distinct names, and each name leads
back to the site of its resource. -/
theorem targets_of_distinct_sites (hl : ∀ r ∈ l, r.Named resourceGroup)
    (hdistinct : (l.map Resource.site).Nodup) :
    ((scope.scan l).map Match.target).Nodup ∧
      List.Forall₂ (Match.Identifies resourceGroup) (scope.scan l)
        (l.filter fun r => scope.Admits r) := by
  have hidentifies := scope.scan_identifies hl
  refine ⟨?_, hidentifies⟩
  have hparsed : ((scope.scan l).map Match.target).map (Site.parse resourceGroup · none) =
      (l.filter fun r => scope.Admits r).map Resource.site := by
    rw [List.map_map, ← List.forall₂_eq_eq_eq, List.forall₂_map_left_iff, List.forall₂_map_right_iff]
    exact hidentifies.imp fun m r h => h.parsed
  have hsites : ((l.filter fun r => scope.Admits r).map Resource.site).Nodup :=
    hdistinct.sublist (List.filter_sublist.map _)
  rw [← hparsed] at hsites
  exact hsites.of_map _

def crossed : List Resource :=
  [{ Resource.webApp "a" "rg" with tags := Discovery.webTags },
    { Resource.slot "a" "b" "rg" with tags := Discovery.webTags },
    Resource.webApp "a-b" "rg",
    { Resource.webApp "b" "rg" with tags := Discovery.webTags },
    { Resource.slot "b" "a" "rg" with tags := Discovery.webTags }]

theorem named_crossed : ∀ r ∈ crossed, r.Named "rg" := by
  simp only [crossed, List.forall_mem_cons]
  refine ⟨⟨.webApp .., rfl, rfl, nofun⟩, ⟨.slot .., rfl, rfl, fun _ => rfl⟩, ⟨.webApp .., rfl, rfl, nofun⟩,
    ⟨.webApp .., rfl, rfl, nofun⟩, ⟨.slot .., rfl, rfl, fun _ => rfl⟩, by simp⟩

theorem targets_of_crossed :
    (crossed.map Resource.site).Nodup ∧ ((development.scan crossed).map Match.target).Nodup ∧
      (development.scan crossed).map Match.target = ["a", "a/b", "b", "b/a"] := by
  have hdistinct : (crossed.map Resource.site).Nodup := by decide
  exact ⟨hdistinct, (targets_of_distinct_sites development named_crossed hdistinct).1, by decide⟩

end Scope

end WebAppTargets
