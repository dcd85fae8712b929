import WebAppTargets.Proofs.Convergence
import WebAppTargets.Proofs.Stickiness

namespace WebAppTargets

def Site.SharesApp (s t : Site) : Prop := s.resourceGroup = t.resourceGroup ∧ s.webApp = t.webApp

instance (s t : Site) : Decidable (s.SharesApp t) := inferInstanceAs (Decidable (_ ∧ _))

namespace Contents

/-- The second contents differ from the first in what belongs to the site or its web app, if at all. -/
structure SameBut (s : Site) (c c' : Contents) : Prop where
  appSettings : ∀ t, t ≠ s → c'.appSettings t = c.appSettings t
  connections : ∀ t, t ≠ s → c'.connections t = c.connections t
  stickyNames : ∀ rg app, ¬(rg = s.resourceGroup ∧ app = s.webApp) →
    c'.stickyNames rg app = c.stickyNames rg app

structure AgreeOn (s : Site) (c c' : Contents) : Prop where
  appSettings : c'.appSettings s = c.appSettings s
  connections : c'.connections s = c.connections s
  sticky : c'.sticky s = c.sticky s

section SameBut

variable (c : Contents) (s : Site)

theorem SameBut.refl : SameBut s c c := ⟨fun _ _ => rfl, fun _ _ => rfl, fun _ _ _ => rfl⟩

variable {c s}

theorem SameBut.trans {c' c'' : Contents} (h : SameBut s c c') (h' : SameBut s c' c'') :
    SameBut s c c'' where
  appSettings t ht := (h'.appSettings t ht).trans (h.appSettings t ht)
  connections t ht := (h'.connections t ht).trans (h.connections t ht)
  stickyNames rg app ha := (h'.stickyNames rg app ha).trans (h.stickyNames rg app ha)

variable (c s)

theorem sameBut_setAppSettings (t : Table String) : SameBut s c (c.setAppSettings s t) :=
  ⟨fun _ hr => if_neg hr, fun _ _ => rfl, fun _ _ _ => rfl⟩

theorem sameBut_setConnections (t : Table ConnectionString) : SameBut s c (c.setConnections s t) :=
  ⟨fun _ _ => rfl, fun _ hr => if_neg hr, fun _ _ _ => rfl⟩

theorem sameBut_withSticky (names : NameSet) : SameBut s c (c.withSticky s names) := by
  rw [withSticky]
  split
  · exact .refl c s
  · exact ⟨fun _ _ => rfl, fun _ _ => rfl, fun _ _ ha => if_neg ha⟩

theorem sameBut_settled (d : List AppSetting) : SameBut s c (c.settled s d) := by
  rw [settled]
  split
  · exact .refl c s
  · exact (sameBut_setAppSettings c s _).trans (sameBut_withSticky _ s _)

theorem sameBut_reconciled (d : Desired) : SameBut s c (c.reconciled s d) :=
  (sameBut_settled c s d.appSettings).trans (sameBut_setConnections _ s _)

theorem Stage.sameBut {c c' : Contents} {s : Site} {d : Desired} (h : Stage c s d c') :
    SameBut s c c' := by
  cases h with
  | untouched => exact .refl c s
  | values => exact sameBut_setAppSettings c s _
  | settings => exact sameBut_settled c s d.appSettings
  | finished => exact sameBut_reconciled c s d

end SameBut

section AgreeOn

variable {c c' c'' : Contents} {s t : Site}

theorem AgreeOn.symm (h : AgreeOn s c c') : AgreeOn s c' c :=
  ⟨h.appSettings.symm, h.connections.symm, h.sticky.symm⟩

theorem AgreeOn.trans (h : AgreeOn s c c') (h' : AgreeOn s c' c'') : AgreeOn s c c'' :=
  ⟨h'.appSettings.trans h.appSettings, h'.connections.trans h.connections,
    h'.sticky.trans h.sticky⟩

theorem SameBut.agreeOn (h : SameBut s c c') (hne : ¬t.SharesApp s) : AgreeOn t c c' := by
  have hts : t ≠ s := by
    rintro rfl
    exact hne ⟨rfl, rfl⟩
  exact ⟨h.appSettings t hts, h.connections t hts, h.stickyNames _ _ hne⟩

theorem AgreeOn.merged_eq (h : AgreeOn s c c') (d : List AppSetting) :
    c'.merged s d = c.merged s d := by
  rw [merged, merged, visible, visible, h.appSettings, h.sticky]

theorem AgreeOn.withSticky (h : AgreeOn s c c') (names : NameSet) :
    AgreeOn s (c.withSticky s names) (c'.withSticky s names) := by
  rw [Contents.withSticky, Contents.withSticky]
  split
  · exact h
  · exact ⟨h.appSettings, h.connections, by rw [sticky_setSticky, sticky_setSticky]⟩

theorem AgreeOn.withValues (h : AgreeOn s c c') (d : List AppSetting) :
    AgreeOn s (c.withValues s d) (c'.withValues s d) where
  appSettings := by
    rw [Contents.withValues, Contents.withValues, appSettings_setAppSettings,
      appSettings_setAppSettings, h.merged_eq]
  connections := h.connections
  sticky := h.sticky

theorem AgreeOn.settled (h : AgreeOn s c c') (d : List AppSetting) :
    AgreeOn s (c.settled s d) (c'.settled s d) := by
  rw [Contents.settled, Contents.settled]
  split
  · exact h
  · rw [withSettings, withSettings, h.merged_eq]
    exact (h.withValues d).withSticky _

theorem AgreeOn.reconciled (h : AgreeOn s c c') (d : Desired) :
    AgreeOn s (c.reconciled s d) (c'.reconciled s d) where
  appSettings := (h.settled d.appSettings).appSettings
  connections := by rw [connections_reconciled, connections_reconciled, h.connections]
  sticky := (h.settled d.appSettings).sticky

theorem eq_of_changes {α : Type} {p q : Prop} {a b b' x y : α} (hb : ¬p → b = a) (hx : ¬q → x = b)
    (hb' : ¬q → b' = a) (hy : ¬p → y = b') (hp : p → x = y) (hq : q → x = y) : x = y := by
  by_cases h : p
  · exact hp h
  · by_cases h' : q
    · exact hq h'
    · rw [hx h', hb h, hy h, hb' h']

theorem eq_of_agreeOn {m m' x y : Contents} (hm : SameBut s c m) (hx : SameBut t m x)
    (hm' : SameBut t c m') (hy : SameBut s m' y) (hs : AgreeOn s x y) (ht : AgreeOn t x y) :
    x = y := by
  apply Contents.ext
  · funext r
    refine eq_of_changes (hm.appSettings r) (hx.appSettings r) (hm'.appSettings r)
      (hy.appSettings r) ?_ ?_
    · rintro rfl
      exact hs.appSettings.symm
    · rintro rfl
      exact ht.appSettings.symm
  · funext r
    refine eq_of_changes (hm.connections r) (hx.connections r) (hm'.connections r)
      (hy.connections r) ?_ ?_
    · rintro rfl
      exact hs.connections.symm
    · rintro rfl
      exact ht.connections.symm
  · funext rg app
    refine eq_of_changes (hm.stickyNames rg app) (hx.stickyNames rg app) (hm'.stickyNames rg app)
      (hy.stickyNames rg app) ?_ ?_
    · rintro ⟨rfl, rfl⟩
      exact hs.sticky.symm
    · rintro ⟨rfl, rfl⟩
      exact ht.sticky.symm

theorem reconciled_comm (c : Contents) (h : ¬s.SharesApp t) (d e : Desired) :
    (c.reconciled s d).reconciled t e = (c.reconciled t e).reconciled s d := by
  have h' : ¬t.SharesApp s := fun ht => h ⟨ht.1.symm, ht.2.symm⟩
  -- at each of the two sites both orders make the same of it: the other run is not about it
  have hst := sameBut_reconciled (c.reconciled s d) t e
  have hts := sameBut_reconciled (c.reconciled t e) s d
  have hs := ((sameBut_reconciled c t e).agreeOn h).reconciled d
  have ht := ((sameBut_reconciled c s d).agreeOn h').reconciled e
  exact eq_of_agreeOn (sameBut_reconciled c s d) hst (sameBut_reconciled c t e) hts
    ((hst.agreeOn h).symm.trans hs) (ht.symm.trans (hts.agreeOn h'))

end AgreeOn

end Contents

namespace Reconcile

open Memory

theorem site_of_faultless {w : World Memory} (hw : w.client.Faultless) (s : Site) (d : Desired) :
    (site s d w).1 = .ok () ∧ (site s d w).2.client.Faultless ∧
      (site s d w).2.client.contents = w.client.contents.reconciled s d := by
  obtain ⟨k, he⟩ := site_ends_of_faultless hw s d
  obtain ⟨hr, hc⟩ := he w rfl
  rw [hc]
  exact ⟨hr, hw.after _ k, rfl⟩

/-- Whatever errors a run meets, it leaves the resources, the settings of other sites and the sticky names
of other web apps as they are. Runs without errors on two web apps get to the same end in either order. -/
theorem site_local (s : Site) (d : Desired) (w : World Memory) :
    (site s d w).2.client.resources = w.client.resources ∧
    Contents.SameBut s w.client.contents (site s d w).2.client.contents ∧
    ∀ t e, ¬s.SharesApp t →
      let start := { w with client := w.client.mended }
      let first := site s d start
      let second := site t e first.2
      let first' := site t e start
      let second' := site s d first'.2
      (first.1 = .ok () ∧ second.1 = .ok ()) ∧ (first'.1 = .ok () ∧ second'.1 = .ok ()) ∧
        second.2.client.contents = second'.2.client.contents := by
  obtain ⟨r, c, k, he, hstage⟩ := site_stage s d w.client
  obtain ⟨-, hc⟩ := he w rfl
  refine ⟨by rw [hc]; rfl, by rw [hc]; exact hstage.sameBut, ?_⟩
  intro t e hne start first second first' second'
  have hstart : start.client.Faultless := w.client.faultless_mended
  obtain ⟨hr₁, hf₁, hc₁⟩ := site_of_faultless hstart s d
  obtain ⟨hr₂, -, hc₂⟩ := site_of_faultless hf₁ t e
  obtain ⟨hr₁', hf₁', hc₁'⟩ := site_of_faultless hstart t e
  obtain ⟨hr₂', -, hc₂'⟩ := site_of_faultless hf₁' s d
  refine ⟨⟨hr₁, hr₂⟩, ⟨hr₁', hr₂'⟩, ?_⟩
  calc second.2.client.contents
      = (start.client.contents.reconciled s d).reconciled t e := by rw [← hc₁]; exact hc₂
    _ = (start.client.contents.reconciled t e).reconciled s d := Contents.reconciled_comm _ hne d e
    _ = second'.2.client.contents := by rw [← hc₁']; exact hc₂'.symm

theorem site_local_two_apps :
    ¬production.SharesApp ⟨"rg", "other", some "blue"⟩ ∧
      let start : World Memory := { client := sharedNames.mended }
      let d : Desired := ⟨[⟨"Z", "3", true⟩], []⟩
      let e : Desired := ⟨[⟨"Z", "4", false⟩], [⟨"Main", "db", .custom⟩]⟩
      let blue : Site := ⟨"rg", "other", some "blue"⟩
      (site blue e (site production d start).2).2.client.contents =
        (site production d (site blue e start).2).2.client.contents :=
  ⟨by decide, ((site_local production ⟨[⟨"Z", "3", true⟩], []⟩
    { client := { sharedNames with putStickyError := some .notAuthenticated } }).2.2
    ⟨"rg", "other", some "blue"⟩ ⟨[⟨"Z", "4", false⟩], [⟨"Main", "db", .custom⟩]⟩ (by decide)).2.2⟩

end Reconcile

end WebAppTargets
