import WebAppTargets.Proofs.Numerals

namespace WebAppTargets.Json

open List (Forall₂)

namespace Grammar

mutual
/-- A value without space around it, of which no number is rounded. Under a key that an object repeats
is what stands there last. -/
inductive ValueOf : List Char → Value → Prop
  | null : ValueOf "null".toList .null
  | true : ValueOf "true".toList (.bool true)
  | false : ValueOf "false".toList (.bool false)
  | number {s : List Char} {x : Numeral} {n : Number} (h : IsNumeral s x) (hkept : x.IsKept n) :
      ValueOf s (.number n)
  | string {s : List Char} {t : String} (h : IsLiteral s (.string (some t))) : ValueOf s (.string t)
  | emptyArray {s : List Char} (h : IsSpace s) : ValueOf ('[' :: (s ++ [']'])) (.ofItems [])
  | array {s : List Char} {l : List Value} (h : ElementsOf s l) :
      ValueOf ('[' :: (s ++ [']'])) (.ofItems l)
  | emptyObject {s : List Char} (h : IsSpace s) :
      ValueOf ('\x7b' :: (s ++ ['\x7d'])) (.ofTable (.ofList []))
  | object {s : List Char} {l : List (String × Value)} (h : MembersOf s l) :
      ValueOf ('\x7b' :: (s ++ ['\x7d'])) (.ofTable (.ofList l))
inductive ElementOf : List Char → Value → Prop
  | mk {pre s post : List Char} {v : Value} (hpre : IsSpace pre) (h : ValueOf s v)
      (hpost : IsSpace post) : ElementOf (pre ++ (s ++ post)) v
inductive ElementsOf : List Char → List Value → Prop
  | last {s : List Char} {v : Value} (h : ElementOf s v) : ElementsOf s [v]
  | more {s t : List Char} {v : Value} {l : List Value} (h : ElementOf s v) (ht : ElementsOf t l) :
      ElementsOf (s ++ ',' :: t) (v :: l)
inductive MembersOf : List Char → List (String × Value) → Prop
  | last {pre k post s : List Char} {key : String} {v : Value} (hpre : IsSpace pre)
      (hk : IsLiteral k (.string (some key))) (hpost : IsSpace post) (h : ElementOf s v) :
      MembersOf (pre ++ (k ++ (post ++ ':' :: s))) [(key, v)]
  | more {pre k post s t : List Char} {key : String} {v : Value} {l : List (String × Value)}
      (hpre : IsSpace pre) (hk : IsLiteral k (.string (some key))) (hpost : IsSpace post)
      (h : ElementOf s v) (ht : MembersOf t l) :
      MembersOf (pre ++ (k ++ (post ++ ':' :: (s ++ ',' :: t)))) ((key, v) :: l)
end

end Grammar

/-- If anything is kept of the reading, it is this value. -/
def Node.Means (n : Node) (v : Value) : Prop := ∀ {depth : Nat} {w : Value}, n.value depth = .ok w → w = v

def MembersMean : List (String × Node) → List (String × Value) → Prop :=
  Forall₂ fun e f => e.1 = f.1 ∧ e.2.Means f.2

theorem Items.values_of_means {ns : List Node} {l m : List Value} {depth : Nat}
    (h : Forall₂ Node.Means ns l) (hm : (Items.ofList ns).values depth = .ok m) : m = l := by
  induction h generalizing m with
  | nil =>
      cases hm
      rfl
  | cons hn _ ih =>
      obtain ⟨v, hv, hm⟩ := bind_eq_ok_iff.1 hm
      obtain ⟨r, hr, hm⟩ := bind_eq_ok_iff.1 hm
      cases hm
      rw [hn hv, ih hr]

theorem Members.fields_of_mean {es : List (String × Node)} {l m : List (String × Value)} {depth : Nat}
    (h : MembersMean es l) (hm : (Members.ofList es).fields depth = .ok m) : m = l := by
  induction h generalizing m with
  | nil =>
      cases hm
      rfl
  | @cons e f _ _ hef _ ih =>
      obtain ⟨k, hk, hm⟩ := bind_eq_ok_iff.1 hm
      obtain ⟨v, hv, hm⟩ := bind_eq_ok_iff.1 hm
      obtain ⟨r, hr, hm⟩ := bind_eq_ok_iff.1 hm
      cases hk
      cases hm
      rw [hef.1, hef.2 hv, ih hr]

theorem Node.means_array {ns : List Node} {l : List Value} (h : Forall₂ Means ns l) :
    (Node.array (.ofList ns)).Means (.ofItems l) := by
  intro depth w hw
  cases depth with
  | zero => cases hw
  | succ d =>
      obtain ⟨m, hm, hw⟩ := bind_eq_ok_iff.1 hw
      cases hw
      rw [Items.values_of_means h hm]

theorem Node.means_object {es : List (String × Node)} {l : List (String × Value)} (h : MembersMean es l) :
    (Node.object (.ofList es)).Means (.ofTable (.ofList l)) := by
  intro depth w hw
  cases depth with
  | zero => cases hw
  | succ d =>
      obtain ⟨m, hm, hw⟩ := bind_eq_ok_iff.1 hw
      cases hw
      rw [Members.fields_of_mean h hm]

namespace Grammar

mutual
theorem ValueOf.exists_means {s : List Char} {v : Value} (h : ValueOf s v) : ∃ n, IsValue s n ∧ n.Means v := by
  cases h with
  | null => exact ⟨_, .null, fun h => (Except.ok.inj h).symm⟩
  | true => exact ⟨_, .true, fun h => (Except.ok.inj h).symm⟩
  | false => exact ⟨_, .false, fun h => (Except.ok.inj h).symm⟩
  | number h hkept =>
      refine ⟨_, .number h, fun hw => ?_⟩
      rw [hkept.1] at hw
      exact (Except.ok.inj hw).symm
  | string h => exact ⟨_, .string h, fun h => (Except.ok.inj h).symm⟩
  | emptyArray h => exact ⟨_, .emptyArray h, Node.means_array .nil⟩
  | array h =>
      obtain ⟨ns, hns, hmeans⟩ := h.exists_means
      exact ⟨_, .array hns, Node.means_array hmeans⟩
  | emptyObject h => exact ⟨_, .emptyObject h, Node.means_object .nil⟩
  | object h =>
      obtain ⟨es, hes, hmean⟩ := h.exists_mean
      exact ⟨_, .object hes, Node.means_object hmean⟩
termination_by 4 * s.length
theorem ElementOf.exists_means {s : List Char} {v : Value} (h : ElementOf s v) :
    ∃ n, IsElement s n ∧ n.Means v := by
  cases h with
  | mk hpre h hpost =>
      obtain ⟨n, hn, hmeans⟩ := h.exists_means
      exact ⟨n, .mk hpre hn hpost, hmeans⟩
termination_by 4 * s.length + 1
theorem ElementsOf.exists_means {s : List Char} {l : List Value} (h : ElementsOf s l) :
    ∃ ns, AreElements s (.ofList ns) ∧ Forall₂ Node.Means ns l := by
  cases h with
  | last h =>
      obtain ⟨n, hn, hmeans⟩ := h.exists_means
      exact ⟨[n], .last hn, .cons hmeans .nil⟩
  | more h ht =>
      obtain ⟨n, hn, hmeans⟩ := h.exists_means
      obtain ⟨ns, hns, hrest⟩ := ht.exists_means
      exact ⟨n :: ns, .more hn hns, .cons hmeans hrest⟩
termination_by 4 * s.length + 2
theorem MembersOf.exists_mean {s : List Char} {l : List (String × Value)} (h : MembersOf s l) :
    ∃ es, AreMembers s (.ofList es) ∧ MembersMean es l := by
  cases h with
  | last hpre hk hpost h =>
      obtain ⟨n, hn, hmeans⟩ := h.exists_means
      exact ⟨[(_, n)], .last hpre hk hpost hn, .cons ⟨rfl, hmeans⟩ .nil⟩
  | more hpre hk hpost h ht =>
      obtain ⟨n, hn, hmeans⟩ := h.exists_means
      obtain ⟨es, hes, hrest⟩ := ht.exists_mean
      exact ⟨(_, n) :: es, .more hpre hk hpost hn hes, .cons ⟨rfl, hmeans⟩ hrest⟩
termination_by 4 * s.length + 2
decreasing_by all_goals subst_vars; simp only [List.length_append, List.length_cons]; omega
end

def TextOf (text : String) (v : Value) : Prop := ElementOf text.toList v

theorem ElementOf.exists_members {s : List Char} {l : List (String × Value)} (h : ElementOf s (.ofFields l)) :
    ∃ es members, IsElement s (.object (.ofList es)) ∧ MembersMean es members ∧
      l = (Table.ofList members).entries := by
  generalize hv : Value.ofFields l = v at h
  have hentries {members : List (String × Value)} (h : Value.ofFields l = .ofTable (.ofList members)) :
      l = (Table.ofList members).entries := by
    have hmembers := congrArg Value.members h
    rwa [Value.ofTable, Value.members_ofFields, Value.members_ofFields] at hmembers
  cases h with
  | mk hpre h hpost =>
      cases h with
      | emptyObject h => exact ⟨[], [], .mk hpre (.emptyObject h) hpost, .nil, hentries hv⟩
      | object h =>
          obtain ⟨es, hes, hmean⟩ := h.exists_mean
          exact ⟨es, _, .mk hpre (.object hes) hpost, hmean, hentries hv⟩
      | _ => cases hv

theorem TextOf.exists_members {text : String} {l : List (String × Value)} (h : TextOf text (.ofFields l)) :
    ∃ es members, IsText text (.object (.ofList es)) ∧ MembersMean es members ∧
      l = (Table.ofList members).entries :=
  ElementOf.exists_members h

end Grammar

end WebAppTargets.Json
