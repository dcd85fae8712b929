import WebAppTargets.Proofs.Merge

namespace WebAppTargets

namespace Snapshot

variable (c : Snapshot) (d a b : List AppSetting) (n : String)

theorem promoted_append : promoted (a ++ b) = promoted a ++ promoted b := by
  rw [promoted, List.filter_append, List.map_append]
  rfl

theorem demoted_append : demoted (a ++ b) = demoted a ++ demoted b := by
  rw [demoted, List.filter_append, List.map_append]
  rfl

theorem merge_merge_self : (c.merge d).merge d = c.merge d :=
  merge_congr (fun _ hn => get?_properties_merge_of_notMem c d hn)
    fun _ hn => contains_sticky_merge_of_notMem c d hn

theorem properties_merge_append :
    (c.merge (a ++ b)).properties = ((c.merge a).merge b).properties :=
  List.foldl_append

/-- The two ways differ on a name that the first list promotes and the second one only demotes. -/
theorem contains_sticky_merge_append_iff :
    ((c.merge (a ++ b)).sticky.contains n ↔ ((c.merge a).merge b).sticky.contains n) ↔
      (n ∈ promoted a → n ∈ demoted b → n ∈ promoted b) := by
  rw [contains_sticky_merge, contains_sticky_merge, contains_sticky_merge, promoted_append,
    demoted_append, List.mem_append, List.mem_append]
  tauto

theorem sticky_merge_append_iff :
    (c.merge (a ++ b)).sticky = ((c.merge a).merge b).sticky ↔
      ∀ n, n ∈ promoted a → n ∈ demoted b → n ∈ promoted b := by
  constructor
  · intro h n
    rw [← contains_sticky_merge_append_iff c a b n, h]
  · intro h
    apply NameSet.ext_contains
    intro n
    exact (contains_sticky_merge_append_iff c a b n).2 (h n)

/-- The last desired value of a name wins over the current one. A name is sticky when any entry desires
that, or when it was and no entry desires that it be not. Connection strings are replaced as a whole. A
merge of the same list once more changes nothing. -/
theorem merge_gives (t : Table ConnectionString) (k : List ConnectionSetting) :
    (∀ n, (c.merge d).properties.get? n =
      ((d.filter fun e => e.name = n).getLast?.map AppSetting.value <|> c.properties.get? n)) ∧
    (∀ n, (c.merge d).sticky.contains n ↔ (∃ e ∈ d, e.isSticky ∧ e.name = n) ∨
      (c.sticky.contains n ∧ ¬∃ e ∈ d, e.isSticky = false ∧ e.name = n)) ∧
    (∀ n, (mergeConnections t k).get? n =
      ((k.filter fun e => e.name = n).getLast?.map (fun e => ⟨e.value, e.kind⟩) <|> t.get? n)) ∧
    (c.merge d).merge d = c.merge d ∧
    mergeConnections (mergeConnections t k) k = mergeConnections t k := by
  refine ⟨get?_properties_merge c d, fun n => ?_, get?_mergeConnections t k, merge_merge_self c d,
    mergeConnections_mergeConnections t k⟩
  rw [contains_sticky_merge, mem_promoted_iff, mem_demoted_iff]

/-- Merging two lists as one gives the values of merging one after the other. It gives the sticky names of
that just when each name that has a sticky entry in the first list and one that is not in the second has
a sticky entry in the second, too. -/
theorem merge_append :
    (c.merge (a ++ b)).properties = ((c.merge a).merge b).properties ∧
    ((c.merge (a ++ b)).sticky = ((c.merge a).merge b).sticky ↔
      ∀ n, (∃ e ∈ a, e.isSticky ∧ e.name = n) → (∃ e ∈ b, e.isSticky = false ∧ e.name = n) →
        ∃ e ∈ b, e.isSticky ∧ e.name = n) ∧
    ∀ (t : Table ConnectionString) (k l : List ConnectionSetting),
      mergeConnections t (k ++ l) = mergeConnections (mergeConnections t k) l := by
  refine ⟨properties_merge_append c a b, ?_, fun t k l => List.foldl_append⟩
  rw [sticky_merge_append_iff]
  simp only [mem_promoted_iff, mem_demoted_iff]

/-- As one list, the entries leave the name sticky; one after the other they do not. -/
example :
    ((empty.merge ([⟨"X", "1", true⟩] ++ [⟨"X", "2", false⟩])).sticky.toList,
      ((empty.merge [⟨"X", "1", true⟩]).merge [⟨"X", "2", false⟩]).sticky.toList) = (["X"], []) := by
  decide

end Snapshot

end WebAppTargets
