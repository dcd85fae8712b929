import WebAppTargets.Proofs.Contents
import WebAppTargets.Proofs.Ending

namespace WebAppTargets

namespace Memory

def contents (m : Memory) : Contents := ⟨m.appSettings, m.connections, m.stickyNames⟩

def after (m : Memory) (c : Contents) (calls : List Call) : Memory :=
  { m with
    appSettings := c.appSettings, connections := c.connections, stickyNames := c.stickyNames
    calls := m.calls ++ calls }

variable (m : Memory) (s : Site)

@[simp] theorem contents_after (c : Contents) (calls : List Call) : (m.after c calls).contents = c := rfl

@[simp] theorem after_after (c d : Contents) (k l : List Call) :
    (m.after c k).after d l = m.after d (k ++ l) := by
  simp [after]

theorem after_contents : m.after m.contents [] = m := by
  simp [after, contents]

theorem ofEntries_settings : Snapshot.ofEntries (m.settings s) = m.contents.visible s := by
  apply Snapshot.ext
  · rw [Snapshot.properties_ofEntries, settings, List.map_map]
    have he : ((fun e : AppSetting => (e.name, e.value)) ∘ fun e : String × String =>
        (⟨e.1, e.2, (m.sticky s).contains e.1⟩ : AppSetting)) = id := rfl
    rw [he, List.map_id, Table.ofList_entries]
    rfl
  · apply NameSet.ext_contains
    intro n
    rw [Snapshot.contains_sticky_ofEntries, Contents.contains_sticky_visible,
      Table.contains_iff (m.contents.appSettings s), Snapshot.mem_promoted_iff]
    simp only [settings, List.mem_map, Table.get?_eq_some_iff]
    constructor
    · rintro ⟨-, ⟨e, he, rfl⟩, hs, rfl⟩
      exact ⟨hs, e.2, he⟩
    · rintro ⟨hs, v, hv⟩
      exact ⟨⟨n, v, (m.sticky s).contains n⟩, ⟨(n, v), hv, rfl⟩, hs, rfl⟩

def Ends {α : Type} (x : Action Memory α) (r : Except Error α) (c : Contents) (calls : List Call) :
    Prop :=
  ∀ w : World Memory, w.client = m → (x w).1 = r ∧ (x w).2.client = m.after c calls

section Ends

variable {m} {α β : Type} {x : Action Memory α} {r : Except Error β} {c d : Contents}
  {k l : List Call}

theorem Ends.bind {f : α → Action Memory β} {a : α} (hx : m.Ends x (.ok a) c k)
    (hf : (m.after c k).Ends (f a) r d l) : m.Ends (x >>= f) r d (k ++ l) := by
  rw [Ends, ← after_after m c d k l]
  exact Action.Ends.bind hx hf

theorem Ends.bind_error {f : α → Action Memory β} {e : Error} (hx : m.Ends x (.error e) c k) :
    m.Ends (x >>= f) (.error e) c k :=
  Action.Ends.bind_error hx

theorem Ends.of_ends {q : Except Error α} (hx : Action.Ends m x q m) : m.Ends x q m.contents [] := by
  rw [Ends, after_contents]
  exact hx

theorem Ends.value (a : α) : m.Ends (pure a) (.ok a) m.contents [] := .of_ends (.value m a)

theorem Ends.write (level : Level) (text : String) :
    m.Ends (Action.write level text) (.ok ()) m.contents [] := .of_ends (.write m level text)

theorem Ends.emit (t : Trace) : m.Ends (Action.emit t) (.ok ()) m.contents [] :=
  .of_ends (.emit m t)

theorem Ends.after_quiet {y : Action Memory Unit} {f : Unit → Action Memory β}
    (hy : m.Ends y (.ok ()) m.contents []) (hf : m.Ends (f ()) r c k) : m.Ends (y >>= f) r c k := by
  have h := hy.bind (f := f) (r := r) (d := c) (l := k) (by rwa [after_contents])
  exact h

theorem Ends.before_quiet {y : Action Memory Unit} {q : Except Error Unit}
    {f : Unit → Action Memory β} {b : β} (hy : m.Ends y q c k)
    (hf : ∀ m : Memory, m.Ends (f ()) (.ok b) m.contents []) :
    m.Ends (y >>= f) (q.map fun _ => b) c k := by
  cases q with
  | error e => exact hy.bind_error
  | ok _ =>
      have h := hy.bind (hf (m.after c k))
      rwa [List.append_nil] at h

end Ends

section Calls

theorem call_ends (k : Call) (fault : Memory → Option Error) :
    m.Ends (call k fault)
      ((fault (m.after m.contents [k])).elim (.ok ()) fun e => .error (.other e.message))
      m.contents [k] := by
  refine (Action.Ends.modify m fun m => m.after m.contents [k]).bind ((Action.Ends.client _).bind ?_)
  cases fault (m.after m.contents [k]) with
  | none => exact Action.Ends.value _ ()
  | some e => exact Action.Ends.fail _ _

theorem Ends.call {k : Call} {fault : Memory → Option Error}
    (h : fault (m.after m.contents [k]) = none) : m.Ends (call k fault) (.ok ()) m.contents [k] := by
  have hcall := m.call_ends k fault
  rwa [h] at hcall

theorem Ends.call_error {k : Call} {fault : Memory → Option Error} {e : Error}
    (h : fault (m.after m.contents [k]) = some e) :
    m.Ends (Memory.call k fault) (.error (.other e.message)) m.contents [k] := by
  have hcall := m.call_ends k fault
  rwa [h] at hcall

theorem Ends.read {α : Type} (f : Memory → α) :
    m.Ends (Action.client >>= fun m => pure (f m)) (.ok (f m)) m.contents [] :=
  .of_ends ((Action.Ends.client m).bind (.value m (f m)))

theorem Ends.modify {f : Memory → Memory} {c : Contents} (h : f m = m.after c []) :
    m.Ends (Action.modify f) (.ok ()) c [] := by
  rw [Ends, ← h]
  exact Action.Ends.modify m f

variable {m}

theorem getAppSettings_ends (h : m.getError = none) :
    m.Ends (Client.getAppSettings s) (.ok (m.settings s)) m.contents [.getAppSettings s] :=
  (Ends.call m h).bind (Ends.read _ fun m => m.settings s)

theorem getAppSettings_fails {e : Error} (h : m.getError = some e) :
    m.Ends (Client.getAppSettings s) (.error (.other e.message)) m.contents [.getAppSettings s] :=
  (Ends.call_error m h).bind_error

theorem putAppSettings_ends (t : Table String) (h : m.putSettingsError = none) :
    m.Ends (Client.putAppSettings s t) (.ok ()) (m.contents.setAppSettings s t)
      [.putAppSettings s] :=
  (Ends.call m h).bind (Ends.modify _ (by simp [after, contents, Contents.setAppSettings, setAppSettings]))

theorem putAppSettings_fails (t : Table String) {e : Error} (h : m.putSettingsError = some e) :
    m.Ends (Client.putAppSettings s t) (.error (.other e.message)) m.contents [.putAppSettings s] :=
  (Ends.call_error m h).bind_error

theorem putSticky_ends (names : NameSet) (h : m.putStickyError = none) :
    m.Ends (Client.putSticky s names) (.ok ()) (m.contents.setSticky s names) [.putSticky s] :=
  (Ends.call m h).bind (Ends.modify _ (by simp [after, contents, Contents.setSticky, setSticky]))

theorem putSticky_fails (names : NameSet) {e : Error} (h : m.putStickyError = some e) :
    m.Ends (Client.putSticky s names) (.error (.other e.message)) m.contents [.putSticky s] :=
  (Ends.call_error m h).bind_error

theorem getConnections_ends (h : m.getError = none) :
    m.Ends (Client.getConnections s) (.ok (m.connections s)) m.contents [.getConnections s] :=
  (Ends.call m h).bind (Ends.read _ fun m => m.connections s)

theorem getConnections_fails {e : Error} (h : m.getError = some e) :
    m.Ends (Client.getConnections s) (.error (.other e.message)) m.contents [.getConnections s] :=
  (Ends.call_error m h).bind_error

theorem putConnections_ends (t : Table ConnectionString) (h : m.putConnectionsError = none) :
    m.Ends (Client.putConnections s t) (.ok ()) (m.contents.setConnections s t)
      [.putConnections s] :=
  (Ends.call m h).bind (Ends.modify _ (by simp [after, contents, Contents.setConnections, setConnections]))

theorem putConnections_fails (t : Table ConnectionString) {e : Error}
    (h : m.putConnectionsError = some e) :
    m.Ends (Client.putConnections s t) (.error (.other e.message)) m.contents [.putConnections s] :=
  (Ends.call_error m h).bind_error

end Calls

end Memory

namespace Reconcile

variable (s : Site)

inductive SettingsRun (d : List AppSetting) (m : Memory) :
    Except Error (Option Snapshot) → Contents → List Call → Prop
  | skipped : d.isEmpty → SettingsRun d m (.ok none) m.contents []
  | unread (e : Error) : d.isEmpty = false → m.getError = some e →
      SettingsRun d m (.error (.other e.message)) m.contents [.getAppSettings s]
  | unwritten (e : Error) : d.isEmpty = false → m.getError = none → m.putSettingsError = some e →
      SettingsRun d m (.error (.other e.message)) m.contents [.getAppSettings s, .putAppSettings s]
  | unmarked (e : Error) : d.isEmpty = false → m.getError = none → m.putSettingsError = none →
      (m.contents.merged s d).sticky.isEmpty = false → m.putStickyError = some e →
      SettingsRun d m (.error (.other e.message)) (m.contents.withValues s d)
        [.getAppSettings s, .putAppSettings s, .putSticky s]
  | unsticky : d.isEmpty = false → m.getError = none → m.putSettingsError = none →
      (m.contents.merged s d).sticky.isEmpty →
      SettingsRun d m (.ok (m.contents.merged s d)) (m.contents.withSettings s d)
        [.getAppSettings s, .putAppSettings s]
  | finished : d.isEmpty = false → m.getError = none → m.putSettingsError = none →
      (m.contents.merged s d).sticky.isEmpty = false → m.putStickyError = none →
      SettingsRun d m (.ok (m.contents.merged s d)) (m.contents.withSettings s d)
        [.getAppSettings s, .putAppSettings s, .putSticky s]

inductive ConnectionsRun (d : List ConnectionSetting) (m : Memory) :
    Except Error (Option (Table ConnectionString)) → Contents → List Call → Prop
  | skipped : d.isEmpty → ConnectionsRun d m (.ok none) m.contents []
  | unread (e : Error) : d.isEmpty = false → m.getError = some e →
      ConnectionsRun d m (.error (.other e.message)) m.contents [.getConnections s]
  | unwritten (e : Error) : d.isEmpty = false → m.getError = none →
      m.putConnectionsError = some e →
      ConnectionsRun d m (.error (.other e.message)) m.contents
        [.getConnections s, .putConnections s]
  | finished : d.isEmpty = false → m.getError = none → m.putConnectionsError = none →
      ConnectionsRun d m (.ok (mergeConnections (m.connections s) d))
        (m.contents.withConnections s d) [.getConnections s, .putConnections s]

variable {s} {m : Memory} {d : List AppSetting}

open Memory

theorem writeSticky_ends_of_isEmpty {names : NameSet} (h : names.isEmpty) :
    m.Ends (writeSticky s names) (.ok ()) m.contents [] := by
  rw [writeSticky, if_pos h]
  exact Ends.emit _

theorem writeSticky_ends {names : NameSet} (h : names.isEmpty = false)
    (he : m.putStickyError = none) :
    m.Ends (writeSticky s names) (.ok ()) (m.contents.setSticky s names) [.putSticky s] := by
  rw [writeSticky, if_neg (by simp [h])]
  exact (Ends.write _ _).after_quiet (putSticky_ends s names he)

theorem writeSticky_fails {names : NameSet} {e : Error} (h : names.isEmpty = false)
    (he : m.putStickyError = some e) :
    m.Ends (writeSticky s names) (.error (.other e.message)) m.contents [.putSticky s] := by
  rw [writeSticky, if_neg (by simp [h])]
  exact (Ends.write _ _).after_quiet (putSticky_fails s names he)

theorem merge_ofEntries_settings (m : Memory) (s : Site) (d : List AppSetting) :
    (Snapshot.ofEntries (m.settings s)).merge d = m.contents.merged s d := by
  rw [ofEntries_settings, Contents.merged]

section

variable (hd : d.isEmpty = false) (hg : m.getError = none)

include hd hg

theorem appSettings_fails_of_put {e : Error} (hp : m.putSettingsError = some e) :
    m.Ends (appSettings s d) (.error (.other e.message)) m.contents
      [.getAppSettings s, .putAppSettings s] := by
  rw [appSettings, if_neg (by simp [hd])]
  refine (getAppSettings_ends s hg).bind ((Ends.write _ _).after_quiet ?_)
  exact Ends.bind_error (putAppSettings_fails s _ hp)

/-- Once the values are written the run ends as the writing of the sticky names does. -/
theorem appSettings_ends (hp : m.putSettingsError = none) {q : Except Error Unit} {c : Contents}
    {k : List Call}
    (h : (m.after (m.contents.withValues s d) [.getAppSettings s, .putAppSettings s]).Ends
      (writeSticky s (m.contents.merged s d).sticky) q c k) :
    m.Ends (appSettings s d) (q.map fun _ => some (m.contents.merged s d)) c
      (.getAppSettings s :: .putAppSettings s :: k) := by
  rw [appSettings, if_neg (by simp [hd])]
  refine Ends.bind (k := [.getAppSettings s]) (getAppSettings_ends s hg) ?_
  rw [merge_ofEntries_settings]
  refine Ends.after_quiet (Ends.write _ _) ?_
  refine Ends.bind (k := [.putAppSettings s]) (putAppSettings_ends s _ hp) ?_
  rw [after_after]
  exact Ends.before_quiet h fun m => (Ends.emit _).after_quiet (Ends.value _)

end

theorem appSettings_run (s : Site) (d : List AppSetting) (m : Memory) :
    ∃ r c k, SettingsRun s d m r c k ∧ m.Ends (appSettings s d) r c k := by
  cases hd : d.isEmpty with
  | true =>
      refine ⟨_, _, _, .skipped hd, ?_⟩
      rw [appSettings, if_pos hd]
      exact Ends.value none
  | false =>
      cases hg : m.getError with
      | some e =>
          refine ⟨_, _, _, .unread e hd hg, ?_⟩
          rw [appSettings, if_neg (by simp [hd])]
          exact Ends.bind_error (getAppSettings_fails s hg)
      | none =>
          cases hp : m.putSettingsError with
          | some e => exact ⟨_, _, _, .unwritten e hd hg hp, appSettings_fails_of_put hd hg hp⟩
          | none =>
              cases hn : (m.contents.merged s d).sticky.isEmpty with
              | true =>
                  refine ⟨_, _, _, .unsticky hd hg hp hn, ?_⟩
                  rw [Contents.withSettings, Contents.withSticky, if_pos hn]
                  exact appSettings_ends hd hg hp (writeSticky_ends_of_isEmpty hn)
              | false =>
                  cases hs : m.putStickyError with
                  | some e =>
                      exact ⟨_, _, _, .unmarked e hd hg hp hn hs,
                        appSettings_ends hd hg hp (writeSticky_fails hn hs)⟩
                  | none =>
                      refine ⟨_, _, _, .finished hd hg hp hn hs, ?_⟩
                      rw [Contents.withSettings, Contents.withSticky, if_neg (by simp [hn])]
                      exact appSettings_ends hd hg hp (writeSticky_ends hn hs)

theorem connections_run (s : Site) (d : List ConnectionSetting) (m : Memory) :
    ∃ r c k, ConnectionsRun s d m r c k ∧ m.Ends (connections s d) r c k := by
  cases hd : d.isEmpty with
  | true =>
      refine ⟨_, _, _, .skipped hd, ?_⟩
      rw [connections, if_pos hd]
      exact Ends.value none
  | false =>
      cases hg : m.getError with
      | some e =>
          refine ⟨_, _, _, .unread e hd hg, ?_⟩
          rw [connections, if_neg (by simp [hd])]
          exact Ends.bind_error (getConnections_fails s hg)
      | none =>
          cases hp : m.putConnectionsError with
          | some e =>
              refine ⟨_, _, _, .unwritten e hd hg hp, ?_⟩
              rw [connections, if_neg (by simp [hd])]
              refine Ends.bind (k := [.getConnections s]) (getConnections_ends s hg) ?_
              refine Ends.after_quiet (Ends.write _ _) ?_
              exact Ends.bind_error (putConnections_fails s _ hp)
          | none =>
              refine ⟨_, _, _, .finished hd hg hp, ?_⟩
              rw [connections, if_neg (by simp [hd])]
              refine Ends.bind (k := [.getConnections s]) (getConnections_ends s hg) ?_
              refine Ends.after_quiet (Ends.write _ _) ?_
              refine Ends.before_quiet (q := .ok ()) (putConnections_ends s _ hp) fun m => ?_
              exact (Ends.emit _).after_quiet (Ends.value _)

theorem SettingsRun.of_ok {m : Memory} {a : Option Snapshot} {c : Contents} {k : List Call}
    (h : SettingsRun s d m (.ok a) c k) :
    c = m.contents.settled s d ∧ a = if d.isEmpty then none else some (m.contents.merged s d) := by
  cases h with
  | skipped hd => simp [Contents.settled, hd]
  | unsticky hd | finished hd => simp [Contents.settled, hd]

theorem SettingsRun.stage {m : Memory} {r : Except Error (Option Snapshot)} {c : Contents}
    {k : List Call} (e : List ConnectionSetting) (h : SettingsRun s d m r c k) :
    m.contents.Stage s ⟨d, e⟩ c := by
  cases r with
  | ok a => exact h.of_ok.1 ▸ .settings
  | error _ =>
      cases h with
      | unread | unwritten => exact .untouched
      | unmarked _ hd => exact .values hd

theorem ConnectionsRun.stage {m : Memory} {r : Except Error (Option (Table ConnectionString))}
    {c : Contents} {k l : List Call} {e : List ConnectionSetting}
    (h : ConnectionsRun s e (m.after (m.contents.settled s d) k) r c l) :
    m.contents.Stage s ⟨d, e⟩ c := by
  cases h with
  | skipped | unread | unwritten => exact .settings
  | finished => exact .finished

theorem site_stage (s : Site) (d : Desired) (m : Memory) :
    ∃ r c k, m.Ends (site s d) r c k ∧ m.contents.Stage s d c := by
  obtain ⟨r, c, k, hs, he⟩ := appSettings_run s d.appSettings m
  cases r with
  | error e => exact ⟨_, c, k, Ends.bind_error he, hs.stage d.connections⟩
  | ok a =>
      obtain ⟨rfl, -⟩ := hs.of_ok
      obtain ⟨q, c, l, hc, he'⟩ := connections_run s d.connections (m.after _ k)
      cases q with
      | error e => exact ⟨_, c, k ++ l, Ends.bind he (Ends.bind_error he'), hc.stage⟩
      | ok b => exact ⟨_, c, _, Ends.bind he (Ends.bind he' (Ends.value ())), hc.stage⟩

end Reconcile

namespace Memory

/-- No error is injected into what the reconciler uses. -/
structure Faultless (m : Memory) : Prop where
  get : m.getError = none
  putSettings : m.putSettingsError = none
  putSticky : m.putStickyError = none
  putConnections : m.putConnectionsError = none

theorem Faultless.after {m : Memory} (h : m.Faultless) (c : Contents) (k : List Call) :
    (m.after c k).Faultless := ⟨h.get, h.putSettings, h.putSticky, h.putConnections⟩

end Memory

namespace Reconcile

open Memory

variable {s : Site} {m : Memory}

def settingCalls (s : Site) (d : List AppSetting) (hasSticky : Bool) : List Call :=
  if d.isEmpty then [] else
    .getAppSettings s :: .putAppSettings s :: if hasSticky then [.putSticky s] else []

def connectionCalls (s : Site) (d : List ConnectionSetting) : List Call :=
  if d.isEmpty then [] else [.getConnections s, .putConnections s]

theorem SettingsRun.of_faultless {d : List AppSetting} {r : Except Error (Option Snapshot)}
    {c : Contents} {k : List Call} (hm : m.Faultless) (h : SettingsRun s d m r c k) :
    (∃ a, r = .ok a) ∧ k = settingCalls s d !(m.contents.merged s d).sticky.isEmpty := by
  cases h with
  | skipped hd => exact ⟨⟨_, rfl⟩, by simp [settingCalls, hd]⟩
  | unsticky hd _ _ hn => exact ⟨⟨_, rfl⟩, by simp [settingCalls, hd, hn]⟩
  | finished hd _ _ hn => exact ⟨⟨_, rfl⟩, by simp [settingCalls, hd, hn]⟩
  | unread e _ he => simp [hm.get] at he
  | unwritten e _ _ he => simp [hm.putSettings] at he
  | unmarked e _ _ _ _ he => simp [hm.putSticky] at he

theorem ConnectionsRun.of_faultless {d : List ConnectionSetting}
    {r : Except Error (Option (Table ConnectionString))} {c : Contents} {k : List Call}
    (hm : m.Faultless) (h : ConnectionsRun s d m r c k) :
    (∃ a, r = .ok a) ∧ c = m.contents.withConnections s d ∧ k = connectionCalls s d := by
  cases h with
  | skipped hd =>
      exact ⟨⟨_, rfl⟩, by simp [List.isEmpty_iff.1 hd], by simp [connectionCalls, hd]⟩
  | finished hd => exact ⟨⟨_, rfl⟩, rfl, by simp [connectionCalls, hd]⟩
  | unread e _ he => simp [hm.get] at he
  | unwritten e _ _ he => simp [hm.putConnections] at he

theorem appSettings_calls (hm : m.Faultless) (s : Site) (d : List AppSetting) :
    m.Ends (appSettings s d) (.ok (if d.isEmpty then none else some (m.contents.merged s d)))
      (m.contents.settled s d) (settingCalls s d !(m.contents.merged s d).sticky.isEmpty) := by
  obtain ⟨r, c, k, hs, he⟩ := appSettings_run s d m
  obtain ⟨⟨a, rfl⟩, rfl⟩ := hs.of_faultless hm
  obtain ⟨rfl, rfl⟩ := hs.of_ok
  exact he

theorem appSettings_ends_of_faultless (hm : m.Faultless) (s : Site) (d : List AppSetting) :
    ∃ k, m.Ends (appSettings s d)
      (.ok (if d.isEmpty then none else some (m.contents.merged s d))) (m.contents.settled s d) k :=
  ⟨_, appSettings_calls hm s d⟩

theorem site_calls (hm : m.Faultless) (s : Site) (d : Desired) :
    m.Ends (site s d) (.ok ()) (m.contents.reconciled s d)
      (settingCalls s d.appSettings (!(m.contents.merged s d.appSettings).sticky.isEmpty) ++
        connectionCalls s d.connections) := by
  have he := appSettings_calls hm s d.appSettings
  obtain ⟨r, c, k, hc, he'⟩ := connections_run s d.connections (m.after _ _)
  obtain ⟨⟨b, rfl⟩, rfl, rfl⟩ := hc.of_faultless (hm.after _ _)
  have h : m.Ends (site s d) (.ok ()) _ _ := Ends.bind he (Ends.bind he' (Ends.value ()))
  rwa [List.append_nil] at h

theorem site_ends_of_faultless (hm : m.Faultless) (s : Site) (d : Desired) :
    ∃ k, m.Ends (site s d) (.ok ()) (m.contents.reconciled s d) k :=
  ⟨_, site_calls hm s d⟩

end Reconcile

end WebAppTargets
