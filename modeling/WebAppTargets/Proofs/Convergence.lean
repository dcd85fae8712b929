import WebAppTargets.Proofs.MemoryRun

namespace WebAppTargets

namespace Memory

def mended (m : Memory) : Memory :=
  { m with
    getError := none, putSettingsError := none, putStickyError := none, putConnectionsError := none }

theorem faultless_mended (m : Memory) : m.mended.Faultless := ⟨rfl, rfl, rfl, rfl⟩

end Memory

namespace Reconcile

theorem site_mended (s : Site) (d : Desired) (w : World Memory) :
    (site s d { w with client := w.client.mended }).1 = .ok () ∧
      (site s d { w with client := w.client.mended }).2.client.contents =
        w.client.contents.reconciled s d := by
  obtain ⟨k, he⟩ := site_ends_of_faultless w.client.faultless_mended s d
  obtain ⟨hr, hc⟩ := he { w with client := w.client.mended } rfl
  exact ⟨hr, congrArg Memory.contents hc⟩

/-- Whatever errors the first run met, and wherever it stopped, a run without errors after it
succeeds and leaves all sites as one without errors in its place would have. -/
theorem site_retry_converges (s : Site) (d : Desired) (w : World Memory) :
    let left := (site s d w).2
    let retried := site s d { left with client := left.client.mended }
    let direct := site s d { w with client := w.client.mended }
    retried.1 = .ok () ∧ direct.1 = .ok () ∧
      retried.2.client.contents = direct.2.client.contents := by
  intro left retried direct
  obtain ⟨r, c, k, he, hstage⟩ := site_stage s d w.client
  have hleft : left.client.contents = c := congrArg Memory.contents (he w rfl).2
  obtain ⟨hr, hc⟩ := site_mended s d left
  obtain ⟨hr', hc'⟩ := site_mended s d w
  refine ⟨hr, hr', ?_⟩
  calc retried.2.client.contents
      = c.reconciled s d := by rw [← hleft]; exact hc
    _ = w.client.contents.reconciled s d := hstage.reconciled_eq
    _ = direct.2.client.contents := hc'.symm

end Reconcile

end WebAppTargets
