import WebAppTargets.Proofs.MemoryRun

namespace WebAppTargets

namespace Contents

variable (c : Contents) (s : Site) (d : List AppSetting)

theorem properties_visible_withSettings :
    ((c.withSettings s d).visible s).properties = (c.merged s d).properties :=
  c.appSettings_withSettings s d

theorem visible_withSettings (h : (c.merged s d).sticky.isEmpty = false) :
    (c.withSettings s d).visible s = c.merged s d := by
  apply Snapshot.ext
  · exact c.properties_visible_withSettings s d
  · apply NameSet.ext_contains
    intro n
    rw [contains_sticky_visible, sticky_withSettings, appSettings_withSettings, if_neg (by simp [h])]
    exact and_iff_left_of_imp (c.contains_properties_of_sticky s)

theorem contains_sticky_visible_withSettings (h : (c.merged s d).sticky.isEmpty) (n : String) :
    ((c.withSettings s d).visible s).sticky.contains n ↔
      n ∈ d.map AppSetting.name ∧ (c.sticky s).contains n := by
  rw [contains_sticky_visible, sticky_withSettings, appSettings_withSettings, if_pos h, merged,
    Snapshot.contains_properties_merge]
  have hd := ((c.isEmpty_sticky_merged_iff s d).1 h).2 n
  constructor
  · rintro ⟨hs, hn | hv⟩
    · exact ⟨hn, hs⟩
    · exact ⟨hd hs hv, hs⟩
  · rintro ⟨hn, hs⟩
    exact ⟨hs, .inl hn⟩

theorem not_contains_sticky_merged {n : String} (hn : n ∈ d.map AppSetting.name)
    (hs : ∀ e ∈ d, e.name = n → e.isSticky = false) : (c.merged s d).sticky.contains n = false := by
  have hp : n ∉ Snapshot.promoted d := by
    intro h
    obtain ⟨e, he, hsticky, hen⟩ := (Snapshot.mem_promoted_iff d n).1 h
    simp [hs e he hen] at hsticky
  have hdem : n ∈ Snapshot.demoted d := ((Snapshot.mem_names_iff d n).1 hn).resolve_left hp
  rw [← Bool.not_eq_true, merged, Snapshot.contains_sticky_merge]
  tauto

end Contents

namespace Reconcile

open Memory

variable {s : Site} {d : List AppSetting} {w : World Memory}

/-- A sticky name that is not desired is kept exactly if the site has a value for it, or if no name
is left to be written as sticky: then nothing is desired as sticky, and all sticky names with a value
on the site are desired. -/
theorem sticky_kept_iff {r : Option Snapshot} {n : String} (hd : d ≠ [])
    (hr : (appSettings s d w).1 = .ok r) (hn : (w.client.sticky s).contains n)
    (hnd : n ∉ d.map AppSetting.name) :
    ((appSettings s d w).2.client.sticky s).contains n ↔
      (w.client.appSettings s).contains n ∨
        ((∀ e ∈ d, e.isSticky = false) ∧
          ∀ k, (w.client.sticky s).contains k → (w.client.appSettings s).contains k →
            k ∈ d.map AppSetting.name) := by
  obtain ⟨q, c, k, hrun, he⟩ := appSettings_run s d w.client
  obtain ⟨hq, hc⟩ := he w rfl
  obtain rfl : q = .ok r := hq.symm.trans hr
  obtain ⟨rfl, -⟩ := hrun.of_ok
  have hsticky : (appSettings s d w).2.client.sticky s =
      (w.client.contents.withSettings s d).sticky s := by
    rw [hc, Contents.settled, if_neg (by simpa using hd)]
    rfl
  have hempty : (w.client.contents.merged s d).sticky.isEmpty ↔ (∀ e ∈ d, e.isSticky = false) ∧
      ∀ k, (w.client.sticky s).contains k → (w.client.appSettings s).contains k →
        k ∈ d.map AppSetting.name := w.client.contents.isEmpty_sticky_merged_iff s d
  rw [hsticky, Contents.sticky_withSettings, ← hempty]
  cases hm : (w.client.contents.merged s d).sticky.isEmpty with
  | true => exact iff_of_true hn (.inr rfl)
  | false =>
      rw [if_neg (by simp), Contents.merged, Snapshot.contains_sticky_merge_of_notMem _ d hnd,
        Contents.contains_sticky_visible, or_iff_left (by simp)]
      exact and_iff_right hn

def production : Site := ⟨"rg", "my-app", none⟩

def sharedNames : Memory :=
  (({} : Memory).addSetting production ⟨"Y", "2", true⟩).addSetting ⟨"rg", "my-app", some "blue"⟩
    ⟨"X", "1", true⟩

theorem sticky_kept_with_value :
    ((appSettings production [⟨"Z", "3", true⟩] { client := sharedNames }).2.client.sticky
        production).contains "Y" ∧
      ¬((appSettings production [⟨"Z", "3", true⟩] { client := sharedNames }).2.client.sticky
        production).contains "X" := by
  refine ⟨(sticky_kept_iff (by decide) rfl (by decide) (by decide)).2 (.inl (by decide)), ?_⟩
  intro h
  obtain hv | ⟨hz, -⟩ := (sticky_kept_iff (by decide) rfl (by decide) (by decide)).1 h
  · exact absurd hv (by decide)
  · exact absurd (hz _ List.mem_cons_self) (by decide)

/-- A run on the production site takes stickiness from a name that only a slot has a value for. -/
theorem sticky_lost_of_slot :
    (sharedNames.sticky production).contains "X" ∧ "X" ∉ ["Z"] ∧
      (appSettings production [⟨"Z", "3", true⟩] { client := sharedNames }).1 =
        .ok (some ⟨.ofList [("Y", "2"), ("Z", "3")], NameSet.ofList ["Y", "Z"]⟩) ∧
      ¬((appSettings production [⟨"Z", "3", true⟩] { client := sharedNames }).2.client.sticky
        production).contains "X" :=
  ⟨by decide, by decide, rfl, by decide⟩

/-- Without errors the state given back is the one that is read next, but when there was no sticky
name to write: then desired names that were sticky before are still read as sticky. -/
theorem appSettings_read_back (hw : w.client.Faultless) (hd : d ≠ []) :
    ∃ written entries,
      (appSettings s d w).1 = .ok (some written) ∧
      (Client.getAppSettings s (appSettings s d w).2).1 = .ok entries ∧
      (Snapshot.ofEntries entries).properties = written.properties ∧
      (∀ n ∈ d.map AppSetting.name, (∀ e ∈ d, e.name = n → e.isSticky = false) →
        written.sticky.contains n = false) ∧
      (written.sticky.isEmpty = false → Snapshot.ofEntries entries = written) ∧
      (written.sticky.isEmpty → ∀ n, (Snapshot.ofEntries entries).sticky.contains n ↔
        n ∈ d.map AppSetting.name ∧ (w.client.sticky s).contains n) := by
  obtain ⟨k, he⟩ := appSettings_ends_of_faultless hw s d
  obtain ⟨hr, hc⟩ := he w rfl
  rw [if_neg (by simpa using hd)] at hr
  rw [Contents.settled, if_neg (by simpa using hd)] at hc
  have hget := getAppSettings_ends s (hw.after (w.client.contents.withSettings s d) k).get
  have hread := ofEntries_settings (w.client.after (w.client.contents.withSettings s d) k) s
  rw [contents_after] at hread
  refine ⟨_, _, hr, (hget _ hc).1, ?_⟩
  rw [hread]
  exact ⟨Contents.properties_visible_withSettings _ s d,
    fun n hn hs => Contents.not_contains_sticky_merged _ s d hn hs,
    Contents.visible_withSettings _ s d, Contents.contains_sticky_visible_withSettings _ s d⟩

theorem appSettings_read_back_demoted :
    ∃ written entries,
      (appSettings production [⟨"Y", "5", false⟩, ⟨"Z", "3", true⟩] { client := sharedNames }).1 =
        .ok (some written) ∧
      (Client.getAppSettings production (appSettings production [⟨"Y", "5", false⟩, ⟨"Z", "3", true⟩]
        { client := sharedNames }).2).1 = .ok entries ∧
      Snapshot.ofEntries entries = written ∧ written.sticky.contains "Y" = false := by
  obtain ⟨written, entries, hr, hg, -, hs, he, -⟩ :=
    appSettings_read_back (s := production) (d := [⟨"Y", "5", false⟩, ⟨"Z", "3", true⟩])
      (w := { client := sharedNames }) ⟨rfl, rfl, rfl, rfl⟩ (by decide)
  have hw : (⟨.ofList [("Y", "5"), ("Z", "3")], NameSet.ofList ["Z"]⟩ : Snapshot) = written :=
    Option.some.inj (Except.ok.inj hr)
  exact ⟨written, entries, hr, hg, he (by rw [← hw]; decide), hs "Y" (by decide) (by decide)⟩

theorem last_sticky_read_back :
    (appSettings production [⟨"X", "9", false⟩]
        { client := ({} : Memory).addSetting production ⟨"X", "1", true⟩ }).1 =
        .ok (some ⟨.ofList [("X", "9")], .empty⟩) ∧
      (Client.getAppSettings production (appSettings production [⟨"X", "9", false⟩]
        { client := ({} : Memory).addSetting production ⟨"X", "1", true⟩ }).2).1 =
        .ok [⟨"X", "9", true⟩] ∧
      Snapshot.ofEntries [⟨"X", "9", true⟩] ≠ ⟨.ofList [("X", "9")], .empty⟩ ∧
      (Snapshot.ofEntries [⟨"X", "9", true⟩]).sticky.contains "X" :=
  ⟨rfl, rfl, by decide, by decide⟩

end Reconcile

end WebAppTargets
