import WebAppTargets.Proofs.Answers
import WebAppTargets.Proofs.JsonWriting
import WebAppTargets.Proofs.TimestampText
import WebAppTargets.Resource

namespace WebAppTargets

open Json
open List (Forall₂)

theorem Json.Record.exists_of_getD_option {α : Type} {found : Record} {name : String} {d : Decoder α}
    {o : Option α} (h : found.getD name (Decoder.option d) none = .ok o) : ∀ a ∈ o, ∃ n, d n = .ok a := by
  rintro a rfl
  have h := getD_eq_ok_iff.1 h
  cases hfind : found.find name with
  | none =>
      rw [hfind] at h
      cases h
  | some n =>
      rw [hfind, Option.elim_some] at h
      cases n with
      | null => cases h
      | _ =>
          obtain ⟨b, hb, ⟨⟩⟩ := map_eq_ok_iff.1 h
          exact ⟨_, hb⟩

namespace Resource

def TellsInstant (v : Value) (t : Instant) : Prop := ∃ s, v = .string s ∧ Timestamp.lenient s.toList = .ok t

/-- The value is an object with all of the resource, in any order. -/
structure ToldBy (r : Resource) (v : Value) : Prop where
  record : v.IsRecord
  name : v.member? "name" = some (.string r.name)
  resourceGroup : v.member? "resourceGroup" = some (.string r.resourceGroup)
  tags : ∃ w, v.member? "tags" = some w ∧ w.TellsTable TellsText r.tags
  isSlot : v.member? "isSlot" = some (.bool r.isSlot)
  parent : TellsOption TellsText (v.member? "parentName") r.parent
  plan : TellsOption TellsText (v.member? "serverFarmId") r.plan
  lastModified : TellsOption TellsInstant (v.member? "lastModified") r.lastModified

variable {r : Resource} {v : Value}

theorem TellsInstant.decode_node {t : Instant} (h : TellsInstant v t) : decodeInstant v.node = .ok t := by
  obtain ⟨s, rfl, hs⟩ := h
  exact mapError_eq_ok_iff.2 hs

theorem TellsInstant.ne_null {t : Instant} (h : TellsInstant v t) : v ≠ .null := by
  obtain ⟨s, rfl, -⟩ := h
  exact Value.noConfusion

theorem ToldBy.decode_node (h : r.ToldBy v) : decode v.node = .ok r := by
  obtain ⟨w, hw, htable⟩ := h.tags
  have hname : v.Has "name" Decoder.string r.name := ⟨_, h.name, rfl⟩
  have hgroup : v.Has "resourceGroup" Decoder.string r.resourceGroup := ⟨_, h.resourceGroup, rfl⟩
  have htags : v.Gives "tags" (Decoder.table Decoder.string) .empty r.tags := by
    rw [Value.Gives, hw]
    exact htable.decode_node fun _ _ => TellsText.decode_node
  have hslot : v.Gives "isSlot" Decoder.bool false r.isSlot := by
    rw [Value.Gives, h.isSlot]
    rfl
  have hparent := TellsText.option_gives h.parent
  have hplan := TellsText.option_gives h.plan
  have htime : v.Gives "lastModified" (Decoder.option decodeInstant) none r.lastModified :=
    h.lastModified.gives fun w t hw => ⟨hw.ne_null, hw.decode_node⟩
  have haccepts : ∀ f ∈ fields, f.Accepts v := by
    simp only [fields, List.forall_mem_cons]
    exact ⟨hname.accepts, hgroup.accepts, htags.accepts, hslot.accepts, hparent.accepts, hplan.accepts,
      htime.accepts, List.forall_mem_nil _⟩
  obtain ⟨found, hrecord, hfound⟩ := Decoder.record_node h.record haccepts .text "WebAppResource"
  simp only [fields, List.forall_mem_cons] at hfound
  obtain ⟨h₁, h₂, h₃, h₄, h₅, h₆, h₇, -⟩ := hfound
  rw [decode, hrecord]
  simp only [bind, Except.bind, hname.get_eq h₁, hgroup.get_eq h₂, htags.getD_eq h₃, hslot.getD_eq h₄,
    hparent.getD_eq h₅, hplan.getD_eq h₆, htime.getD_eq h₇]
  rfl

def textMembers (l : List (String × String)) : List (String × Value) := l.map fun e => (e.1, .string e.2)

def spareTexts (r : Resource) : List (String × String) :=
  (r.parent.map fun p => ("parentName", p)).toList ++ (r.plan.map fun p => ("serverFarmId", p)).toList ++
    (r.lastModified.map fun t => ("lastModified", t.text)).toList

def members (r : Resource) (tags : List (String × String)) : List (String × Value) :=
  ("name", .string r.name) :: ("resourceGroup", .string r.resourceGroup) ::
    ("tags", .ofFields (textMembers tags)) :: ("isSlot", .bool r.isSlot) :: textMembers r.spareTexts

theorem json_eq (r : Resource) : r.json = .ofFields (r.members r.tags.entries) := by
  rcases r with ⟨_, _, _, _, _ | p, _ | q, _ | t⟩ <;> rfl

/-- The value is the object for the resource. Tags have no order of their own, so they may be in any. -/
def WrittenAs (r : Resource) (v : Value) : Prop :=
  ∃ tags, tags.Perm r.tags.entries ∧ v = .ofFields (r.members tags)

theorem writtenAs_json (r : Resource) : r.WrittenAs r.json := ⟨r.tags.entries, .refl _, r.json_eq⟩

section Members

variable {tags : List (String × String)}

theorem nodup_members (r : Resource) (tags : List (String × String)) :
    ((r.members tags).map Prod.fst).Nodup := by
  have hsub : ((r.members tags).map Prod.fst).Sublist
      ["name", "resourceGroup", "tags", "isSlot", "parentName", "serverFarmId", "lastModified"] := by
    rcases r with ⟨_, _, _, _, _ | p, _ | q, _ | t⟩ <;> exact List.isSublist_iff_sublist.1 rfl
  exact hsub.nodup (by decide)

theorem tellsTable_textMembers {t : Table String} (h : tags.Perm t.entries) :
    (Value.ofFields (textMembers tags)).TellsTable TellsText t :=
  ⟨_, tags, rfl, List.forall₂_map_left_iff.2 (List.forall₂_same.2 fun _ _ => ⟨rfl, rfl⟩),
    Table.ofList_of_perm h⟩

theorem toldBy_of_members (hv : v.IsRecord) (hmembers : ∀ k, v.member? k = (r.members tags).lookup k)
    (htags : tags.Perm r.tags.entries) (htime : ∀ t ∈ r.lastModified, t.Tellable) : r.ToldBy v := by
  obtain ⟨name, resourceGroup, table, isSlot, parent, plan, lastModified⟩ := r
  have hspare : v.member? "parentName" = parent.map .string ∧
      v.member? "serverFarmId" = plan.map .string ∧
      v.member? "lastModified" = lastModified.map fun t => .string t.text := by
    rw [hmembers, hmembers, hmembers]
    cases parent <;> cases plan <;> cases lastModified <;> exact ⟨rfl, rfl, rfl⟩
  obtain ⟨hparent, hplan, hlast⟩ := hspare
  refine ⟨hv, hmembers _, hmembers _, ⟨_, hmembers _, tellsTable_textMembers htags⟩, hmembers _, ?_, ?_, ?_⟩
  · exact hparent ▸ .of_map fun p _ => rfl
  · exact hplan ▸ .of_map fun p _ => rfl
  · exact hlast ▸ .of_map fun t ht => ⟨t.text, rfl, Timestamp.lenient_text (htime t ht)⟩

theorem written_textMembers (l : List (String × String)) : ∀ e ∈ textMembers l, e.2.Written := by
  intro e he
  obtain ⟨f, -, rfl⟩ := List.mem_map.1 he
  exact .string f.2

theorem written_members (r : Resource) (tags : List (String × String)) :
    (Value.ofFields (r.members tags)).Written := by
  refine .ofFields ?_
  simp only [members, List.forall_mem_cons]
  exact ⟨.string _, .string _, .ofFields (written_textMembers tags), .bool _, written_textMembers _⟩

theorem keptAs_textMembers (l : List (String × String)) (depth : Nat) :
    Forall₂ (fun e f => f.1 = e.1 ∧ e.2.KeptAs depth f.2) (textMembers l) (textMembers l) := by
  refine List.forall₂_same.2 fun e he => ?_
  obtain ⟨f, -, rfl⟩ := List.mem_map.1 he
  exact ⟨rfl, rfl⟩

theorem keptAs_tags {t : Table String} (h : tags.Perm t.entries) (depth : Nat) :
    (Value.ofFields (textMembers tags)).KeptAs (depth + 1) (.ofFields (textMembers t.entries)) := by
  have hkept := Value.keptAs_ofFields (keptAs_textMembers tags depth)
  have htable : Table.ofList (textMembers tags) =
      ⟨textMembers t.entries, List.pairwise_map.2 t.sorted⟩ := Table.ofList_of_perm (h.map _)
  rwa [htable] at hkept

end Members

def kept (r : Resource) : Value := .ofTable (.ofList (r.members r.tags.entries))

theorem WrittenAs.keptAs (h : r.WrittenAs v) : v.KeptAs maxDepth r.kept := by
  obtain ⟨tags, hperm, rfl⟩ := h
  exact Value.keptAs_ofFields (.cons ⟨rfl, rfl⟩ (.cons ⟨rfl, rfl⟩ (.cons ⟨rfl, keptAs_tags hperm _⟩
    (.cons ⟨rfl, rfl⟩ (keptAs_textMembers r.spareTexts _)))))

theorem WrittenAs.toldBy (h : r.WrittenAs v) (htime : ∀ t ∈ r.lastModified, t.Tellable) : r.ToldBy v := by
  obtain ⟨tags, hperm, rfl⟩ := h
  refine toldBy_of_members ⟨_, rfl, r.nodup_members _⟩ (fun k => ?_) hperm htime
  rw [Value.member?, Value.members_ofFields]

theorem toldBy_kept (htime : ∀ t ∈ r.lastModified, t.Tellable) : r.ToldBy r.kept := by
  refine toldBy_of_members (Value.isRecord_ofTable _) (fun k => ?_) (.refl _) htime
  rw [kept, Value.member?_ofTable, Table.get?_ofList_of_nodup (r.nodup_members _)]

theorem WrittenAs.decodeText_eq (h : r.WrittenAs v) (htime : ∀ t ∈ r.lastModified, t.Tellable) :
    decodeText decode v.text = .ok r := by
  have htold := h.toldBy htime
  obtain ⟨tags, -, rfl⟩ := h
  rw [(r.written_members tags).renders.decodeText_eq, htold.decode_node]

theorem tellable_of_decodeInstant {n : Node} {t : Instant} (h : decodeInstant n = .ok t) : t.Tellable := by
  obtain ⟨s, -, hs⟩ := bind_eq_ok_iff.1 h
  exact Timestamp.tellable_of_lenient (mapError_eq_ok_iff.1 hs)

theorem tellable_of_decode {n : Node} (h : decode n = .ok r) : ∀ t ∈ r.lastModified, t.Tellable := by
  obtain ⟨found, -, h⟩ := bind_eq_ok_iff.1 h
  obtain ⟨_, -, h⟩ := bind_eq_ok_iff.1 h
  obtain ⟨_, -, h⟩ := bind_eq_ok_iff.1 h
  obtain ⟨_, -, h⟩ := bind_eq_ok_iff.1 h
  obtain ⟨_, -, h⟩ := bind_eq_ok_iff.1 h
  obtain ⟨_, -, h⟩ := bind_eq_ok_iff.1 h
  obtain ⟨_, -, h⟩ := bind_eq_ok_iff.1 h
  obtain ⟨lastModified, hlast, ⟨⟩⟩ := bind_eq_ok_iff.1 h
  intro t ht
  obtain ⟨n, hn⟩ := Record.exists_of_getD_option hlast t ht
  exact tellable_of_decodeInstant hn

/-- A resource that was read from a text is read from every text that is written for it, and from the JSON
value of such a text. That value is the same when what was read is written once more. -/
theorem survives_writing {text : String} (h : decodeText decode text = .ok r) :
    r.WrittenAs r.json ∧ decode r.kept.node = .ok r ∧
      ∀ v, r.WrittenAs v → decodeText decode v.text = .ok r ∧ v.KeptAs maxDepth r.kept ∧
        ∀ r' v', decodeText decode v.text = .ok r' → r'.WrittenAs v' → v'.KeptAs maxDepth r.kept := by
  obtain ⟨_, hn, h⟩ := bind_eq_ok_iff.1 h
  obtain ⟨-, ⟨⟩⟩ := unless_eq_ok_iff.1 h
  have htime := tellable_of_decode hn
  refine ⟨r.writtenAs_json, (toldBy_kept htime).decode_node, fun v hv => ?_⟩
  have hread := hv.decodeText_eq htime
  refine ⟨hread, hv.keptAs, fun r' v' hr' hv' => ?_⟩
  obtain rfl := Except.ok.inj (hread.symm.trans hr')
  exact hv'.keptAs

def arrayText : String :=
  "[\"a\", \"rg\", \x7b\"b\": \"1\", \"a\": \"\\n\", \"b\": \"2\"\x7d, true, \"p\", null, " ++
    "\"2017-01-01 5:29:60.1234567899 +05:30\"]"

def arrayResource : Resource where
  name := "a"
  resourceGroup := "rg"
  tags := .ofList [("a", "\n"), ("b", "2")]
  isSlot := true
  parent := "p"
  lastModified := some ⟨1483228799, 1123456789⟩

theorem survives_writing_array :
    decodeText decode arrayText = .ok arrayResource ∧
      decode arrayResource.kept.node = .ok arrayResource ∧
      ∀ v ∈ [arrayResource.json, .ofFields (arrayResource.members [("b", "2"), ("a", "\n")])],
        decodeText decode v.text = .ok arrayResource ∧ v.KeptAs maxDepth arrayResource.kept := by
  have hread : decodeText decode arrayText = .ok arrayResource := by decide +kernel
  obtain ⟨hjson, hkept, hwritten⟩ := survives_writing hread
  have hswapped : arrayResource.WrittenAs (.ofFields (arrayResource.members [("b", "2"), ("a", "\n")])) :=
    ⟨_, .swap _ _ [], rfl⟩
  refine ⟨hread, hkept, fun v hv => ?_⟩
  have hv : arrayResource.WrittenAs v := by
    rcases List.mem_pair.1 hv with rfl | rfl
    · exact hjson
    · exact hswapped
  exact ⟨(hwritten v hv).1, (hwritten v hv).2.1⟩

end Resource

end WebAppTargets
