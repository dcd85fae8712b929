import WebAppTargets.Client.Memory
import WebAppTargets.Proofs.Merge
import WebAppTargets.Reconcile

namespace WebAppTargets

@[ext] structure Contents where
  appSettings : Site → Table String
  connections : Site → Table ConnectionString
  stickyNames : String → String → NameSet

namespace Contents

variable (c : Contents) (s : Site)

def sticky : NameSet := c.stickyNames s.resourceGroup s.webApp

def setAppSettings (t : Table String) : Contents :=
  { c with appSettings := fun r => if r = s then t else c.appSettings r }

def setConnections (t : Table ConnectionString) : Contents :=
  { c with connections := fun r => if r = s then t else c.connections r }

def setSticky (names : NameSet) : Contents :=
  { c with stickyNames := fun rg app =>
      if rg = s.resourceGroup ∧ app = s.webApp then names else c.stickyNames rg app }

/-- What can be read of a site. A sticky name for which the site has no value is hidden. -/
def visible : Snapshot where
  properties := c.appSettings s
  sticky := (c.sticky s).filter fun n _ => (c.appSettings s).contains n

def merged (d : List AppSetting) : Snapshot := (c.visible s).merge d

def withValues (d : List AppSetting) : Contents := c.setAppSettings s (c.merged s d).properties

def withSticky (names : NameSet) : Contents := if names.isEmpty then c else c.setSticky s names

def withSettings (d : List AppSetting) : Contents :=
  (c.withValues s d).withSticky s (c.merged s d).sticky

def settled (d : List AppSetting) : Contents := if d.isEmpty then c else c.withSettings s d

def withConnections (d : List ConnectionSetting) : Contents :=
  c.setConnections s (mergeConnections (c.connections s) d)

def reconciled (d : Desired) : Contents :=
  (c.settled s d.appSettings).withConnections s d.connections

@[simp] theorem appSettings_setAppSettings (t : Table String) :
    (c.setAppSettings s t).appSettings s = t := if_pos rfl

@[simp] theorem connections_setConnections (t : Table ConnectionString) :
    (c.setConnections s t).connections s = t := if_pos rfl

@[simp] theorem sticky_setSticky (names : NameSet) : (c.setSticky s names).sticky s = names :=
  if_pos ⟨rfl, rfl⟩

@[simp] theorem setAppSettings_setAppSettings (t u : Table String) :
    (c.setAppSettings s t).setAppSettings s u = c.setAppSettings s u := by
  refine Contents.ext (funext fun r => ?_) rfl rfl
  by_cases h : r = s <;> simp [setAppSettings, h]

@[simp] theorem setConnections_setConnections (t u : Table ConnectionString) :
    (c.setConnections s t).setConnections s u = c.setConnections s u := by
  refine Contents.ext rfl (funext fun r => ?_) rfl
  by_cases h : r = s <;> simp [setConnections, h]

@[simp] theorem setSticky_setSticky (m n : NameSet) :
    (c.setSticky s m).setSticky s n = c.setSticky s n := by
  refine Contents.ext rfl rfl (funext fun rg => funext fun app => ?_)
  by_cases h : rg = s.resourceGroup ∧ app = s.webApp <;> simp [setSticky, h]

theorem contains_sticky_visible (n : String) :
    (c.visible s).sticky.contains n ↔ (c.sticky s).contains n ∧ (c.appSettings s).contains n :=
  NameSet.contains_filter (c.sticky s) (fun n => (c.appSettings s).contains n) n

@[simp] theorem appSettings_withSticky (names : NameSet) :
    (c.withSticky s names).appSettings = c.appSettings := by
  unfold withSticky
  split <;> rfl

@[simp] theorem appSettings_withSettings (d : List AppSetting) :
    (c.withSettings s d).appSettings s = (c.merged s d).properties := by
  simp [withSettings, withValues]

theorem sticky_withSettings (d : List AppSetting) :
    (c.withSettings s d).sticky s =
      if (c.merged s d).sticky.isEmpty then c.sticky s else (c.merged s d).sticky := by
  unfold withSettings withSticky
  split
  · rfl
  · exact sticky_setSticky (c.withValues s d) s (c.merged s d).sticky

/-- Once the values are written the hidden names among the desired ones can be read, and only those. -/
theorem merged_eq_of_values {c' : Contents} {d : List AppSetting}
    (hp : c'.appSettings s = (c.merged s d).properties)
    (hs : ∀ n, n ∉ d.map AppSetting.name → (c.appSettings s).contains n →
      ((c'.sticky s).contains n ↔ (c.sticky s).contains n)) :
    c'.merged s d = c.merged s d := by
  apply Snapshot.merge_congr
  · intro n hn
    change (c'.appSettings s).get? n = (c.visible s).properties.get? n
    rw [hp]
    exact Snapshot.get?_properties_merge_of_notMem (c.visible s) d hn
  · intro n hn
    have hvalue : (c'.appSettings s).contains n ↔ (c.appSettings s).contains n := by
      rw [hp, merged, Snapshot.contains_properties_merge]
      exact or_iff_right hn
    rw [contains_sticky_visible, contains_sticky_visible, hvalue]
    exact and_congr_left (hs n hn)

@[simp] theorem merged_withValues (d : List AppSetting) :
    (c.withValues s d).merged s d = c.merged s d :=
  merged_eq_of_values c s (appSettings_setAppSettings c s _) fun _ _ _ => Iff.rfl

@[simp] theorem merged_withSettings (d : List AppSetting) :
    (c.withSettings s d).merged s d = c.merged s d := by
  apply merged_eq_of_values c s (appSettings_withSettings c s d)
  intro n hn hc
  rw [sticky_withSettings]
  split
  · rfl
  · rw [merged, Snapshot.contains_sticky_merge_of_notMem (c.visible s) d hn, contains_sticky_visible]
    exact and_iff_left hc

theorem contains_properties_of_sticky {d : List AppSetting} {n : String}
    (h : (c.merged s d).sticky.contains n) : (c.merged s d).properties.contains n := by
  rw [merged, Snapshot.contains_sticky_merge, contains_sticky_visible] at h
  rw [merged, Snapshot.contains_properties_merge]
  obtain hn | ⟨⟨-, hv⟩, -⟩ := h
  · exact .inl ((Snapshot.mem_names_iff d n).2 (.inl hn))
  · exact .inr hv

theorem isEmpty_sticky_merged_iff (d : List AppSetting) :
    (c.merged s d).sticky.isEmpty ↔
      (∀ e ∈ d, e.isSticky = false) ∧
        ∀ n, (c.sticky s).contains n → (c.appSettings s).contains n → n ∈ d.map AppSetting.name := by
  have hm (n : String) := Snapshot.contains_sticky_merge (c.visible s) d n
  have hv := c.contains_sticky_visible s
  rw [Table.isEmpty_iff]
  constructor
  · intro h
    constructor
    · intro e he
      by_contra hs
      have hp : e.name ∈ Snapshot.promoted d :=
        (Snapshot.mem_promoted_iff d e.name).2 ⟨e, he, by simpa using hs, rfl⟩
      exact h e.name ((hm e.name).2 (.inl hp))
    · intro n hs hc
      by_contra hn
      rw [Snapshot.mem_names_iff, not_or] at hn
      exact h n ((hm n).2 (.inr ⟨(hv n).2 ⟨hs, hc⟩, hn.2⟩))
  · rintro ⟨hd, hn⟩ n h
    obtain hp | ⟨hs, hdem⟩ := (hm n).1 h
    · obtain ⟨e, he, hs, -⟩ := (Snapshot.mem_promoted_iff d n).1 hp
      simp [hd e he] at hs
    · obtain ⟨e, he, hen⟩ := List.mem_map.1 (hn n ((hv n).1 hs).1 ((hv n).1 hs).2)
      exact hdem ((Snapshot.mem_demoted_iff d n).2 ⟨e, he, hd e he, hen⟩)

theorem withSettings_withValues (d : List AppSetting) :
    (c.withValues s d).withSettings s d = c.withSettings s d := by
  rw [withSettings, merged_withValues, withValues, merged_withValues, withValues,
    setAppSettings_setAppSettings]
  rfl

theorem withSettings_withSettings (d : List AppSetting) :
    (c.withSettings s d).withSettings s d = c.withSettings s d := by
  have hv : (c.withSettings s d).withValues s d = c.withSettings s d := by
    rw [withValues, merged_withSettings]
    refine Contents.ext (funext fun r => ?_) rfl rfl
    by_cases h : r = s <;> simp [setAppSettings, h]
  have hs : (c.withSettings s d).withSticky s (c.merged s d).sticky = c.withSettings s d := by
    unfold withSettings withSticky
    split
    · rfl
    · exact setSticky_setSticky _ s _ _
  calc (c.withSettings s d).withSettings s d
      = ((c.withSettings s d).withValues s d).withSticky s
          ((c.withSettings s d).merged s d).sticky := rfl
    _ = c.withSettings s d := by rw [merged_withSettings, hv, hs]

theorem settled_settled (d : List AppSetting) : (c.settled s d).settled s d = c.settled s d := by
  cases d with
  | nil => rfl
  | cons e r => exact withSettings_withSettings c s (e :: r)

theorem settled_withConnections (d : List AppSetting) (e : List ConnectionSetting) :
    (c.withConnections s e).settled s d = (c.settled s d).withConnections s e := by
  unfold settled
  split
  · rfl
  · change ((c.withValues s d).setConnections s _).withSticky s (c.merged s d).sticky = _
    unfold withConnections withSettings withSticky
    split <;> rfl

theorem withConnections_withConnections (d : List ConnectionSetting) :
    (c.withConnections s d).withConnections s d = c.withConnections s d := by
  simp [withConnections, mergeConnections_mergeConnections]

@[simp] theorem withConnections_nil : c.withConnections s [] = c := by
  refine Contents.ext rfl (funext fun r => ?_) rfl
  by_cases h : r = s <;> simp [withConnections, setConnections, mergeConnections, h]

theorem appSettings_reconciled {d : Desired} (h : d.appSettings.isEmpty = false) :
    (c.reconciled s d).appSettings s = (c.merged s d.appSettings).properties := by
  change (c.settled s d.appSettings).appSettings s = _
  rw [settled, if_neg (by simp [h]), appSettings_withSettings]

theorem sticky_reconciled {d : Desired} (h : d.appSettings.isEmpty = false)
    (hn : (c.merged s d.appSettings).sticky.isEmpty = false) :
    (c.reconciled s d).sticky s = (c.merged s d.appSettings).sticky := by
  change (c.settled s d.appSettings).sticky s = _
  rw [settled, if_neg (by simp [h]), sticky_withSettings, if_neg (by simp [hn])]

theorem connections_reconciled (d : Desired) :
    (c.reconciled s d).connections s = mergeConnections (c.connections s) d.connections := by
  have hsettled : (c.settled s d.appSettings).connections = c.connections := by
    unfold settled withSettings withSticky
    split
    · rfl
    · split <;> rfl
  rw [reconciled, withConnections, connections_setConnections, hsettled]

/-- How far a run has come: it may stop before any write, or after any of them. -/
inductive Stage (d : Desired) : Contents → Prop
  | untouched : Stage d c
  | values : d.appSettings.isEmpty = false → Stage d (c.withValues s d.appSettings)
  | settings : Stage d (c.settled s d.appSettings)
  | finished : Stage d (c.reconciled s d)

theorem Stage.reconciled_eq {c c' : Contents} {s : Site} {d : Desired} (h : Stage c s d c') :
    c'.reconciled s d = c.reconciled s d := by
  cases h with
  | untouched => rfl
  | values hd =>
      simp only [reconciled, settled, hd, Bool.false_eq_true, if_false, withSettings_withValues]
  | settings => rw [reconciled, settled_settled, reconciled]
  | finished =>
      rw [reconciled, reconciled, settled_withConnections, settled_settled,
        withConnections_withConnections]

end Contents

end WebAppTargets
