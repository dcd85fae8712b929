import WebAppTargets.Proofs.Table
import WebAppTargets.Snapshot

namespace WebAppTargets

attribute [ext] Snapshot

namespace Snapshot

section Reading

variable (l : List AppSetting)

theorem properties_foldl_add (s : Snapshot) :
    (l.foldl add s).properties = l.foldl (fun t e => t.insert e.name e.value) s.properties := by
  induction l generalizing s with
  | nil => rfl
  | cons e r ih => rw [List.foldl_cons, ih, List.foldl_cons]; rfl

theorem contains_sticky_add (s : Snapshot) (e : AppSetting) (n : String) :
    (s.add e).sticky.contains n ↔ (e.isSticky ∧ n = e.name) ∨ s.sticky.contains n := by
  unfold add
  cases e.isSticky <;> simp

theorem contains_sticky_foldl_add (s : Snapshot) (n : String) :
    (l.foldl add s).sticky.contains n ↔ n ∈ promoted l ∨ s.sticky.contains n := by
  induction l generalizing s with
  | nil => simp [promoted]
  | cons e r ih =>
      rw [List.foldl_cons, ih, contains_sticky_add]
      cases he : e.isSticky
      · simp [promoted, he]
      · simp only [promoted, List.filter_cons, he, if_true, List.map_cons, List.mem_cons, true_and]
        tauto

theorem properties_ofEntries :
    (ofEntries l).properties = Table.ofList (l.map fun e => (e.name, e.value)) := by
  rw [ofEntries, properties_foldl_add, Table.ofList, List.foldl_map]
  rfl

theorem contains_sticky_ofEntries (n : String) :
    (ofEntries l).sticky.contains n ↔ n ∈ promoted l := by
  rw [ofEntries, contains_sticky_foldl_add]
  simp [empty]

end Reading

section Merging

variable (c : Snapshot) (d : List AppSetting) (n : String)

theorem mem_promoted_iff : n ∈ promoted d ↔ ∃ e ∈ d, e.isSticky ∧ e.name = n := by
  simp only [promoted, List.mem_map, List.mem_filter, and_assoc]

theorem mem_demoted_iff : n ∈ demoted d ↔ ∃ e ∈ d, e.isSticky = false ∧ e.name = n := by
  simp only [demoted, List.mem_map, List.mem_filter, and_assoc, Bool.not_eq_true']

theorem mem_names_iff : n ∈ d.map AppSetting.name ↔ n ∈ promoted d ∨ n ∈ demoted d := by
  rw [List.mem_map, mem_promoted_iff, mem_demoted_iff]
  constructor
  · rintro ⟨e, he, rfl⟩
    cases hs : e.isSticky
    · exact .inr ⟨e, he, hs, rfl⟩
    · exact .inl ⟨e, he, hs, rfl⟩
  · rintro (⟨e, he, -, rfl⟩ | ⟨e, he, -, rfl⟩)
    · exact ⟨e, he, rfl⟩
    · exact ⟨e, he, rfl⟩

theorem get?_properties_merge :
    (c.merge d).properties.get? n =
      ((d.filter fun e => e.name = n).getLast?.map AppSetting.value <|> c.properties.get? n) :=
  Table.get?_foldl_insert AppSetting.name AppSetting.value d c.properties n

theorem contains_properties_merge :
    (c.merge d).properties.contains n ↔ n ∈ d.map AppSetting.name ∨ c.properties.contains n :=
  Table.contains_foldl_insert AppSetting.name AppSetting.value d c.properties n

theorem contains_sticky_merge :
    (c.merge d).sticky.contains n ↔
      n ∈ promoted d ∨ (c.sticky.contains n ∧ n ∉ demoted d) := by
  have h := Table.contains_foldl_insert id (fun _ => ()) (promoted d)
    (c.sticky.filter fun n _ => n ∉ demoted d) n
  rw [List.map_id, NameSet.contains_filter c.sticky fun n => n ∉ demoted d, decide_eq_true_iff] at h
  exact h

theorem get?_properties_merge_of_notMem {n : String} (hn : n ∉ d.map AppSetting.name) :
    (c.merge d).properties.get? n = c.properties.get? n := by
  have hd : (d.filter fun e => e.name = n) = [] := by
    rw [List.filter_eq_nil_iff]
    intro e he hen
    exact hn (List.mem_map.2 ⟨e, he, by simpa using hen⟩)
  rw [get?_properties_merge, hd]
  rfl

theorem contains_sticky_merge_of_notMem {n : String} (hn : n ∉ d.map AppSetting.name) :
    (c.merge d).sticky.contains n ↔ c.sticky.contains n := by
  rw [mem_names_iff, not_or] at hn
  rw [contains_sticky_merge]
  tauto

end Merging

theorem merge_congr {c c' : Snapshot} {d : List AppSetting}
    (hp : ∀ n, n ∉ d.map AppSetting.name → c'.properties.get? n = c.properties.get? n)
    (hs : ∀ n, n ∉ d.map AppSetting.name → (c'.sticky.contains n ↔ c.sticky.contains n)) :
    c'.merge d = c.merge d := by
  apply Snapshot.ext
  · apply Table.ext_get?
    intro n
    by_cases hn : n ∈ d.map AppSetting.name
    · obtain ⟨e, he, hen⟩ := List.mem_map.1 hn
      have hl : (d.filter fun e => e.name = n).getLast? ≠ none := by
        rw [ne_eq, List.getLast?_eq_none_iff]
        exact List.ne_nil_of_mem (List.mem_filter.2 ⟨he, by simpa using hen⟩)
      obtain ⟨f, hf⟩ := Option.ne_none_iff_exists'.1 hl
      simp [get?_properties_merge, hf]
    · rw [get?_properties_merge_of_notMem c' d hn, get?_properties_merge_of_notMem c d hn, hp n hn]
  · apply NameSet.ext_contains
    intro n
    by_cases hn : n ∈ d.map AppSetting.name
    · rw [contains_sticky_merge, contains_sticky_merge]
      rw [mem_names_iff] at hn
      tauto
    · rw [contains_sticky_merge_of_notMem c' d hn, contains_sticky_merge_of_notMem c d hn, hs n hn]

end Snapshot

theorem get?_mergeConnections (t : Table ConnectionString) (d : List ConnectionSetting) (n : String) :
    (mergeConnections t d).get? n =
      ((d.filter fun e => e.name = n).getLast?.map (fun e => ⟨e.value, e.kind⟩) <|> t.get? n) :=
  Table.get?_foldl_insert ConnectionSetting.name
    (fun e => (⟨e.value, e.kind⟩ : ConnectionString)) d t n

theorem mergeConnections_mergeConnections (t : Table ConnectionString) (d : List ConnectionSetting) :
    mergeConnections (mergeConnections t d) d = mergeConnections t d := by
  apply Table.ext_get?
  intro n
  rw [get?_mergeConnections, get?_mergeConnections]
  cases (d.filter fun e => e.name = n).getLast? <;> rfl

end WebAppTargets
