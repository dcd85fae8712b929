import WebAppTargets.Discovery.Run
import WebAppTargets.Proofs.Ending
import WebAppTargets.Proofs.MemoryRun

namespace WebAppTargets

namespace Discovery

open WebAppTargets.Action

section

variable {σ : Type} [Client σ]

inductive Enumerates (resourceGroup : String) : σ → List (Resource × List Resource) → σ → Prop
  | nil (c : σ) : Enumerates resourceGroup c [] c
  | cons {c c' c'' : σ} {app : Resource} {slots : List Resource}
      {rest : List (Resource × List Resource)}
      (hslots : Ends c (Client.listSlots resourceGroup app.name) (.ok slots) c')
      (hrest : Enumerates resourceGroup c' rest c'') :
      Enumerates resourceGroup c ((app, slots) :: rest) c''

variable {resourceGroup : String} {c c' c'' : σ} {l : List (Resource × List Resource)}

theorem Enumerates.withSlots_ends (h : Enumerates resourceGroup c l c') :
    Ends c (withSlots resourceGroup (l.map Prod.fst)) (.ok (l.flatMap fun e => e.1 :: e.2)) c' := by
  induction h with
  | nil c => exact Ends.value c []
  | cons hslots _ ih => exact hslots.bind ((Ends.emit _ _).bind (ih.bind (Ends.value _ _)))

theorem Enumerates.find_ends {apps : List Resource} (h : Enumerates resourceGroup c' l c'')
    (hl : l.map Prod.fst = apps) (happs : Ends c (Client.listWebApps resourceGroup) (.ok apps) c')
    (scope : Scope) :
    Ends c (find scope resourceGroup) (.ok (scope.scan (l.flatMap fun e => e.1 :: e.2))) c'' := by
  have hcandidates : Ends c (candidates resourceGroup) (.ok (l.flatMap fun e => e.1 :: e.2)) c'' :=
    happs.bind (hl ▸ h.withSlots_ends)
  exact hcandidates.bind (Ends.value _ _)

end

end Discovery

namespace Memory

variable {m : Memory}

theorem listWebApps_ends (h : m.listError = none) (resourceGroup : String) :
    Action.Ends m (Client.listWebApps resourceGroup) (.ok (m.webApps resourceGroup))
      (m.after m.contents [.listWebApps resourceGroup]) :=
  Ends.bind (Ends.call m h) (Ends.read _ fun m => m.webApps resourceGroup)

theorem listSlots_ends (h : m.listError = none) (resourceGroup webApp : String) :
    Action.Ends m (Client.listSlots resourceGroup webApp) (.ok (m.slots resourceGroup webApp))
      (m.after m.contents [.listSlots resourceGroup webApp]) :=
  Ends.bind (Ends.call m h) (Ends.read _ fun m => m.slots resourceGroup webApp)

theorem enumerates (h : m.listError = none) (resourceGroup : String) (apps : List Resource) :
    Discovery.Enumerates resourceGroup m (apps.map fun a => (a, m.slots resourceGroup a.name))
      (m.after m.contents (apps.map fun a => .listSlots resourceGroup a.name)) := by
  induction apps generalizing m with
  | nil => exact (after_contents m).symm ▸ .nil m
  | cons a apps ih =>
      have hrest := ih (m := m.after m.contents [.listSlots resourceGroup a.name]) h
      rw [contents_after, after_after] at hrest
      exact .cons (listSlots_ends h resourceGroup a.name) hrest

theorem find_ends (h : m.listError = none) (scope : Scope) (resourceGroup : String) :
    ∃ m', Action.Ends m (Discovery.find scope resourceGroup)
      (.ok (scope.scan ((m.webApps resourceGroup).flatMap fun a =>
        a :: m.slots resourceGroup a.name))) m' := by
  let listed := m.after m.contents [.listWebApps resourceGroup]
  have hslots := enumerates (m := listed) h resourceGroup (m.webApps resourceGroup)
  have hfind := hslots.find_ends (by simp [Function.comp_def]) (listWebApps_ends h resourceGroup) scope
  rw [List.flatMap_map] at hfind
  exact ⟨_, hfind⟩

end Memory

end WebAppTargets
