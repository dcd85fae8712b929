import Mathlib.Data.List.Nodup
import Mathlib.Data.List.Pairwise
import WebAppTargets.Proofs.Keeping

namespace WebAppTargets.Json

open List (Forall₂)

variable {α : Type}

def Field.keys (f : Field) : List String := f.name :: f.aliases

theorem Field.spells_iff {f : Field} {k : String} : f.spells k ↔ k ∈ f.keys := by
  rw [spells, keys, Bool.or_eq_true, beq_iff_eq, List.contains_iff_mem, List.mem_cons, eq_comm]

def Members.under (keys : List String) : Members → List Node
  | .member (.string (some k)) n rest => if k ∈ keys then n :: rest.under keys else rest.under keys
  | .member _ _ rest => rest.under keys
  | _ => []

theorem Items.forall_skip_of_ofList {ns : List Node} (h : (ofList ns).skip = .ok ()) :
    ∀ n ∈ ns, n.skip = .ok () := by
  induction ns with
  | nil => exact List.forall_mem_nil _
  | cons n ns ih =>
      obtain ⟨_, hn, hns⟩ := bind_eq_ok_iff.1 h
      exact List.forall_mem_cons.2 ⟨hn, ih hns⟩

theorem Members.forall_skip_of_ofList {es : List (String × Node)} (h : (ofList es).skip = .ok ()) :
    ∀ e ∈ es, e.2.skip = .ok () := by
  induction es with
  | nil => exact List.forall_mem_nil _
  | cons e es ih =>
      obtain ⟨_, -, h⟩ := bind_eq_ok_iff.1 h
      obtain ⟨_, he, hes⟩ := bind_eq_ok_iff.1 h
      exact List.forall_mem_cons.2 ⟨he, ih hes⟩

def Apart (fields : List Field) : Prop := (fields.flatMap Field.keys).Nodup

instance (fields : List Field) : Decidable (Apart fields) :=
  inferInstanceAs (Decidable (fields.flatMap Field.keys).Nodup)

section Collect

variable {fields : List Field} {f g : Field} {k : String} {done found : Record}

theorem Apart.eq (h : Apart fields) (hf : f ∈ fields) (hg : g ∈ fields) (hfk : k ∈ f.keys)
    (hgk : k ∈ g.keys) : f = g := by
  have hdisjoint := (List.nodup_flatMap.1 h).2
  have heq : ∀ f ∈ fields, ∀ g ∈ fields, k ∈ f.keys → k ∈ g.keys → f = g :=
    List.Pairwise.forall_of_forall_of_flip (fun _ _ _ _ => rfl)
      (hdisjoint.imp fun hd hf hg => absurd hg (hd hf)) (hdisjoint.imp fun hd hg hf => absurd hg (hd hf))
  exact heq f hf g hg hfk hgk

theorem Field.mem_keys_of_find? (h : fields.find? (·.spells k) = some f) : f ∈ fields ∧ k ∈ f.keys :=
  ⟨List.mem_of_find?_eq_some h,
   Field.spells_iff.1 (List.find?_some (p := fun f => Field.spells f k) h)⟩

theorem Field.not_mem_keys_of_find? (h : fields.find? (·.spells k) = none) (hf : f ∈ fields) :
    k ∉ f.keys :=
  fun hk => List.find?_eq_none.1 h f hf (Field.spells_iff.2 hk)

theorem Apart.name_ne (h : Apart fields) (hf : f ∈ fields) (hg : g ∈ fields) (hne : f ≠ g) :
    f.name ≠ g.name :=
  fun hname => hne (h.eq hf hg List.mem_cons_self (hname ▸ List.mem_cons_self))

theorem Record.find_cons_self (name : String) (n : Node) (done : Record) :
    Record.find ((name, n) :: done) name = some n :=
  List.lookup_cons_self

theorem Record.find_cons_of_ne {name other : String} (h : name ≠ other) (n : Node) (done : Record) :
    Record.find ((other, n) :: done) name = done.find name := by
  rw [find, List.lookup_cons, beq_false_of_ne h, find]

namespace Members

variable {n : Node} {rest : Members} {keys : List String}

theorem under_cons_of_mem (h : k ∈ keys) (n : Node) (rest : Members) :
    (member (.string (some k)) n rest).under keys = n :: rest.under keys := by
  rw [under, if_pos h]

theorem under_cons_of_not_mem (h : k ∉ keys) (n : Node) (rest : Members) :
    (member (.string (some k)) n rest).under keys = rest.under keys := by
  rw [under, if_neg h]

theorem collect_known_iff (hf : fields.find? (·.spells k) = some f) :
    (member (.string (some k)) n rest).collect fields done = .ok found ↔
      done.find f.name = none ∧ f.check n = .ok () ∧
        rest.collect fields ((f.name, n) :: done) = .ok found := by
  simp only [collect, faulted, Node.key, Except.mapError, bind, Except.bind, hf]
  cases hd : done.find f.name with
  | some x => simp [throw, throwThe, MonadExceptOf.throw]
  | none => cases hc : f.check n <;> simp

theorem collect_unknown_iff (hf : fields.find? (·.spells k) = none) :
    (member (.string (some k)) n rest).collect fields done = .ok found ↔
      n.skip = .ok () ∧ rest.collect fields done = .ok found := by
  simp only [collect, faulted, Node.key, Except.mapError, bind, Except.bind, hf]
  cases hs : n.skip <;> simp

/-- What is collected for a field is what was there before and what stands under its keys, one value
at most. -/
theorem under_of_collect (hapart : Apart fields) (hf : f ∈ fields) {members : Members}
    {done found : Record} (h : members.collect fields done = .ok found) :
    (done.find f.name).toList ++ members.under f.keys = (found.find f.name).toList := by
  cases members with
  | closed =>
      cases h
      exact List.append_nil _
  | cut => cases h
  | member key n rest =>
      obtain ⟨k, hk, -⟩ := bind_eq_ok_iff.1 h
      obtain rfl := Node.eq_of_key (mapError_eq_ok_iff.1 hk)
      cases hg : fields.find? (·.spells k) with
      | none =>
          have hrest := under_of_collect hapart hf ((collect_unknown_iff hg).1 h).2
          rwa [under_cons_of_not_mem (Field.not_mem_keys_of_find? hg hf)]
      | some g =>
          obtain ⟨hmem, hgk⟩ := Field.mem_keys_of_find? hg
          obtain ⟨hfree, -, hrest⟩ := (collect_known_iff hg).1 h
          have hrest := under_of_collect hapart hf hrest
          by_cases hfg : f = g
          · subst hfg
            rw [Record.find_cons_self] at hrest
            rwa [under_cons_of_mem hgk, hfree]
          · rw [Record.find_cons_of_ne (hapart.name_ne hf hmem hfg)] at hrest
            rwa [under_cons_of_not_mem fun hfk => hfg (hapart.eq hf hmem hfk hgk)]

theorem collect_ofList (hapart : Apart fields) {es : List (String × Node)} {done : Record}
    (honce : ∀ f ∈ fields, ((done.find f.name).toList ++ (ofList es).under f.keys).length ≤ 1)
    (hcheck : ∀ f ∈ fields, ∀ n ∈ (ofList es).under f.keys, f.check n = .ok ())
    (hskip : ∀ e ∈ es, e.2.skip = .ok ()) : ∃ found, (ofList es).collect fields done = .ok found := by
  -- on the members: what was collected before and what is to come are together one value at most
  induction es generalizing done with
  | nil => exact ⟨done, rfl⟩
  | cons e es ih =>
      obtain ⟨k, n⟩ := e
      obtain ⟨hn, hskip⟩ := List.forall_mem_cons.1 hskip
      rw [ofList] at honce hcheck ⊢
      cases hg : fields.find? (·.spells k) with
      | none =>
          have hunder : ∀ f ∈ fields, (member (.string (some k)) n (ofList es)).under f.keys =
              (ofList es).under f.keys :=
            fun f hf => under_cons_of_not_mem (Field.not_mem_keys_of_find? hg hf) n (ofList es)
          obtain ⟨found, hfound⟩ := ih (fun f hf => hunder f hf ▸ honce f hf)
            (fun f hf => hunder f hf ▸ hcheck f hf) hskip
          exact ⟨found, (collect_unknown_iff hg).2 ⟨hn, hfound⟩⟩
      | some g =>
          obtain ⟨hmem, hgk⟩ := Field.mem_keys_of_find? hg
          have hother {f : Field} (hf : f ∈ fields) (hfg : f ≠ g) : k ∉ f.keys :=
            fun hfk => hfg (hapart.eq hf hmem hfk hgk)
          have hg1 := honce g hmem
          rw [under_cons_of_mem hgk, List.length_append, List.length_cons] at hg1
          have hfree : done.find g.name = none := by
            rw [← Option.toList_eq_nil_iff, ← List.length_eq_zero_iff]
            omega
          have honce' : ∀ f ∈ fields, ((Record.find ((g.name, n) :: done) f.name).toList ++
              (ofList es).under f.keys).length ≤ 1 := by
            intro f hf
            by_cases hfg : f = g
            · subst hfg
              rw [Record.find_cons_self, List.length_append, Option.toList_some, List.length_singleton]
              omega
            · rw [Record.find_cons_of_ne (hapart.name_ne hf hmem hfg),
                ← under_cons_of_not_mem (hother hf hfg) n (ofList es)]
              exact honce f hf
          have hcheck' : ∀ f ∈ fields, ∀ x ∈ (ofList es).under f.keys, f.check x = .ok () := by
            intro f hf x hx
            refine hcheck f hf x ?_
            by_cases hfk : k ∈ f.keys
            · rw [under_cons_of_mem hfk]
              exact List.mem_cons_of_mem _ hx
            · rwa [under_cons_of_not_mem hfk]
          have hn : g.check n = .ok () := hcheck g hmem n (by simp [under_cons_of_mem hgk])
          obtain ⟨found, hfound⟩ := ih honce' hcheck' hskip
          exact ⟨found, (collect_known_iff hg).2 ⟨hfree, hn, hfound⟩⟩

end Members

/-- The object has for the field what it asks for: one value that is right, or no value. -/
def Field.GivenIn (f : Field) (members : Members) : Prop :=
  (∃ n, members.under f.keys = [n] ∧ f.check n = .ok ()) ∨ (members.under f.keys = [] ∧ f.required = false)

theorem Record.find?_missing_eq_none_iff :
    fields.find? (fun f => f.required && (found.find f.name).isNone) = none ↔
      ∀ f ∈ fields, f.required → found.find f.name ≠ none := by
  simp [List.find?_eq_none, Option.isNone_iff_eq_none]

namespace Decoder

theorem record_given (hapart : Apart fields) {es : List (String × Node)}
    (hgiven : ∀ f ∈ fields, f.GivenIn (.ofList es)) (hskip : ∀ e ∈ es, e.2.skip = .ok ())
    (source : Source) (name : String) :
    ∃ found, record source name fields (.object (.ofList es)) = .ok found ∧
      ∀ f ∈ fields, (found.find f.name).toList = (Members.ofList es).under f.keys := by
  have honce : ∀ f ∈ fields,
      ((Record.find [] f.name).toList ++ (Members.ofList es).under f.keys).length ≤ 1 := by
    intro f hf
    rcases hgiven f hf with ⟨n, hn, -⟩ | ⟨hnone, -⟩
    · rw [hn]
      exact Nat.le_refl _
    · rw [hnone]
      exact Nat.zero_le _
  have hcheck : ∀ f ∈ fields, ∀ n ∈ (Members.ofList es).under f.keys, f.check n = .ok () := by
    intro f hf x hx
    rcases hgiven f hf with ⟨n, hn, hcheck⟩ | ⟨hnone, -⟩
    · rw [hn, List.mem_singleton] at hx
      rwa [hx]
    · rw [hnone] at hx
      cases hx
  obtain ⟨found, hfound⟩ := Members.collect_ofList hapart honce hcheck hskip
  have hunder : ∀ f ∈ fields, (found.find f.name).toList = (Members.ofList es).under f.keys :=
    fun f hf => (Members.under_of_collect hapart hf hfound).symm
  refine ⟨found, ?_, hunder⟩
  have hmissing : fields.find? (fun f => f.required && (found.find f.name).isNone) = none := by
    refine Record.find?_missing_eq_none_iff.2 fun f hf hrequired hnone => ?_
    have hempty := hunder f hf
    rw [hnone, Option.toList_none] at hempty
    rcases hgiven f hf with ⟨n, hn, -⟩ | ⟨-, hoptional⟩
    · rw [hn] at hempty
      cases hempty
    · rw [hrequired] at hoptional
      cases hoptional
  rw [record, hfound]
  simp only [bind, Except.bind, hmissing]
  rfl

theorem of_record (hapart : Apart fields) {members : Members} {source : Source} {name : String}
    (h : record source name fields (.object members) = .ok found) (hf : f ∈ fields) :
    (members.under f.keys).length ≤ 1 ∧ (f.required → members.under f.keys ≠ []) := by
  obtain ⟨collected, hcollected, h⟩ := bind_eq_ok_iff.1 h
  have hunder : members.under f.keys = (collected.find f.name).toList :=
    Members.under_of_collect hapart hf hcollected
  rw [hunder]
  refine ⟨by cases collected.find f.name <;> simp, fun hrequired hnone => ?_⟩
  cases hmissing : fields.find? (fun f => f.required && (collected.find f.name).isNone) with
  | some g =>
      rw [hmissing] at h
      cases h
  | none =>
      exact Record.find?_missing_eq_none_iff.1 hmissing f hf hrequired (Option.toList_eq_nil_iff.1 hnone)

theorem list_ofList_eq_ok_iff {d : Decoder α} {ns : List Node} {l : List α} :
    list d (.array (.ofList ns)) = .ok l ↔ Forall₂ (fun n a => d n = .ok a) ns l := by
  change ofItems d (.ofList ns) = .ok l ↔ _
  induction ns generalizing l with
  | nil => simp [Items.ofList, ofItems, eq_comm]
  | cons n ns ih =>
      rw [Items.ofList, ofItems, bind_eq_ok_iff, List.forall₂_cons_left_iff]
      simp only [bind_eq_ok_iff, ih]
      constructor
      · rintro ⟨a, ha, r, hr, ⟨⟩⟩
        exact ⟨a, r, ha, hr, rfl⟩
      · rintro ⟨a, r, ha, hr, rfl⟩
        exact ⟨a, ha, r, hr, rfl⟩

theorem list_ne_ok_of_mem {d : Decoder α} {ns : List Node} {n : Node} (hn : n ∈ ns)
    (hd : ∀ a, d n ≠ .ok a) (l : List α) : list d (.array (.ofList ns)) ≠ .ok l := by
  intro h
  have hall : Forall₂ (fun n a => (∃ b, d n = .ok b) ∧ d n = .ok a) ns l :=
    (list_ofList_eq_ok_iff.1 h).imp fun n a ha => ⟨⟨a, ha⟩, ha⟩
  obtain ⟨a, ha⟩ := ((List.forall₂_and_left ns l).1 hall).1 n hn
  exact hd a ha

end Decoder

end Collect

section Gives

variable {members : Members} {found : Record} {name : String} {aliases : List String}
  {d : Decoder α} {default a : α}

/-- What a decoder makes of the one value under the keys. -/
def Members.Has (members : Members) (keys : List String) (d : Decoder α) (a : α) : Prop :=
  ∃ n, members.under keys = [n] ∧ d n = .ok a

/-- The same, or there is no value and `default` stands for it. -/
def Members.Gives (members : Members) (keys : List String) (d : Decoder α) (default a : α) : Prop :=
  members.Has keys d a ∨ (members.under keys = [] ∧ a = default)

theorem Members.Has.givenIn (h : members.Has (name :: aliases) d a) (required : Bool) :
    Field.GivenIn ⟨name, aliases, required, fun n => (d n).map fun _ => ()⟩ members := by
  obtain ⟨n, hn, ha⟩ := h
  refine .inl ⟨n, hn, ?_⟩
  change (d n).map _ = _
  rw [ha]
  rfl

theorem Members.Gives.givenIn (h : members.Gives (name :: aliases) d default a) :
    (Field.defaulted name aliases d).GivenIn members := by
  rcases h with h | ⟨hnone, -⟩
  · exact h.givenIn false
  · exact .inr ⟨hnone, rfl⟩

theorem Members.Has.get_eq (h : members.Has (name :: aliases) d a)
    (hfound : (found.find name).toList = members.under (name :: aliases)) : found.get name d = .ok a := by
  obtain ⟨n, hn, ha⟩ := h
  rw [hn, Option.toList_eq_singleton_iff] at hfound
  rw [Record.get, hfound]
  exact ha

theorem Members.Gives.getD_eq (h : members.Gives (name :: aliases) d default a)
    (hfound : (found.find name).toList = members.under (name :: aliases)) :
    found.getD name d default = .ok a := by
  rw [Record.getD_eq_ok_iff]
  rcases h with ⟨n, hn, ha⟩ | ⟨hnone, rfl⟩
  · rw [hn, Option.toList_eq_singleton_iff] at hfound
    rw [hfound]
    exact ha
  · rw [hnone, Option.toList_eq_nil_iff] at hfound
    rw [hfound]
    rfl

end Gives

end WebAppTargets.Json
