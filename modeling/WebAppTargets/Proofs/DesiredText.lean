import WebAppTargets.Proofs.Answers
import WebAppTargets.Proofs.JsonWriting
import WebAppTargets.Proofs.Members
import WebAppTargets.Reconcile

namespace WebAppTargets

open Json Grammar
open List (Forall₂)

namespace Json

variable {members : Members} {f : Field}

/-- The object has this value under one of the keys, or none where it need not be said. -/
inductive Members.Offers (members : Members) (keys : List String) (n : Node) (spare : Prop) : Prop
  | given (h : members.under keys = [n])
  | omitted (h : members.under keys = []) (hspare : spare)

/-- The object has a name, a value unless it is empty, and something under a third pair of keys. -/
structure Members.Describes (members : Members) (name value : String) (third : List String) (n : Node)
    (spare : Prop) : Prop where
  name : members.under ["name", "Name"] = [.string (some name)]
  value : members.Offers ["value", "Value"] (.string (some value)) (value = "")
  third : members.Offers third n spare

/-- The object gives its name, its value or what is third twice, or it gives no name. -/
def Members.IsFaulty (members : Members) (third : List String) : Prop :=
  (∃ keys ∈ [["name", "Name"], ["value", "Value"], third], 2 ≤ (members.under keys).length) ∨
    members.under ["name", "Name"] = []

theorem Members.Offers.gives {α : Type} {keys : List String} {n : Node} {d : Decoder α}
    {default a : α} (h : members.Offers keys n (a = default)) (hn : d n = .ok a) :
    members.Gives keys d default a := by
  cases h with
  | given h => exact .inl ⟨n, h, hn⟩
  | omitted h hspare => exact .inr ⟨h, hspare⟩

theorem Members.Describes.record {α : Type} {es : List (String × Node)} {name value third : String}
    {aliases : List String} {n : Node} {d : Decoder α} {default a : α}
    (h : (Members.ofList es).Describes name value (third :: aliases) n (a = default))
    (hn : d n = .ok a) (hapart : Apart [nameField, valueField, .defaulted third aliases d])
    (hskip : ∀ e ∈ es, e.2.skip = .ok ()) (source : Source) (record : String) :
    ∃ found, Decoder.record source record [nameField, valueField, .defaulted third aliases d]
        (.object (.ofList es)) = .ok found ∧
      found.get "name" Decoder.string = .ok name ∧ found.getD "value" Decoder.string "" = .ok value ∧
      found.getD third d default = .ok a := by
  have hname : (Members.ofList es).Has ["name", "Name"] Decoder.string name := ⟨_, h.name, rfl⟩
  have hvalue : (Members.ofList es).Gives ["value", "Value"] Decoder.string "" value := h.value.gives rfl
  have hthird := h.third.gives hn
  have hgiven : ∀ f ∈ [nameField, valueField, .defaulted third aliases d], f.GivenIn (.ofList es) := by
    simp only [List.forall_mem_cons]
    exact ⟨hname.givenIn true, hvalue.givenIn, hthird.givenIn, List.forall_mem_nil _⟩
  obtain ⟨found, hrecord, hfound⟩ := Decoder.record_given hapart hgiven hskip source record
  obtain ⟨h₁, h₂, h₃, -⟩ := by simpa only [List.forall_mem_cons] using hfound
  exact ⟨found, hrecord, hname.get_eq h₁, hvalue.getD_eq h₂, hthird.getD_eq h₃⟩

theorem Members.IsFaulty.record_ne_ok (h : members.IsFaulty f.keys)
    (hapart : Apart [nameField, valueField, f]) (source : Source) (record : String) (found : Record) :
    Decoder.record source record [nameField, valueField, f] (.object members) ≠ .ok found := by
  intro hfound
  have hrecord : ∀ g ∈ [nameField, valueField, f],
      (members.under g.keys).length ≤ 1 ∧ (g.required → members.under g.keys ≠ []) :=
    fun g hg => Decoder.of_record hapart hfound hg
  simp only [List.forall_mem_cons] at hrecord
  obtain ⟨hname, hvalue, hthird, -⟩ := hrecord
  rcases h with ⟨keys, hkeys, htwice⟩ | hnone
  · simp only [List.mem_cons, List.not_mem_nil, or_false] at hkeys
    rcases hkeys with rfl | rfl | rfl
    · exact absurd hname.1 (Nat.not_le.2 htwice)
    · exact absurd hvalue.1 (Nat.not_le.2 htwice)
    · exact absurd hthird.1 (Nat.not_le.2 htwice)
  · exact hname.2 rfl hnone

section Lists

variable {α : Type}

/-- The text is one of a JSON array that has for each entry an object that gives it. -/
def Lists (gives : Members → α → Prop) (text : String) (l : List α) : Prop :=
  ∃ objects : List (List (String × Node)),
    IsText text (.array (.ofList (objects.map fun es => .object (.ofList es)))) ∧
    Forall₂ (fun es s => gives (.ofList es) s) objects l

theorem lists_of_json {gives : Members → α → Prop} {json : α → Value}
    {fields : α → List (String × Value)} (hjson : ∀ s, json s = .ofFields (fields s))
    (hwritten : ∀ s, ∀ e ∈ fields s, e.2.Written) (hgives : ∀ s, gives (.ofList (nodes (fields s))) s)
    (l : List α) : Lists gives (Value.ofItems (l.map json)).text l := by
  have hmap : l.map json = (l.map fields).map .ofFields := by
    rw [List.map_map]
    exact List.map_congr_left fun s _ => hjson s
  refine ⟨(l.map fields).map nodes, ?_, ?_⟩
  · rw [hmap]
    refine isText_objects fun fs hfs => ?_
    obtain ⟨s, -, rfl⟩ := List.mem_map.1 hfs
    exact hwritten s
  · rw [List.map_map, List.forall₂_map_left_iff, List.forall₂_same]
    exact fun s _ => hgives s

end Lists

end Json

namespace AppSetting

/-- The object gives the setting, but for an empty value and for the mark of one that is not sticky. -/
def GivenBy (members : Members) (s : AppSetting) : Prop :=
  members.Describes s.name s.value ["slotSetting", "SlotSetting"] (.bool s.isSticky) (s.isSticky = false)

theorem apart : Apart fields := by decide

theorem decode_given {es : List (String × Node)} {s : AppSetting} (h : GivenBy (.ofList es) s)
    (hskip : ∀ e ∈ es, e.2.skip = .ok ()) : decode (.object (.ofList es)) = .ok s := by
  obtain ⟨found, hrecord, hname, hvalue, hsticky⟩ :=
    h.record (d := Decoder.bool) rfl apart hskip .text "AppSetting"
  rw [decode, fields, hrecord]
  simp only [bind, Except.bind, hname, hvalue, hsticky]
  rfl

theorem decode_ne_ok {members : Members} (h : members.IsFaulty ["slotSetting", "SlotSetting"])
    (s : AppSetting) : decode (.object members) ≠ .ok s := by
  intro hdecode
  obtain ⟨found, hrecord, -⟩ := bind_eq_ok_iff.1 hdecode
  exact h.record_ne_ok apart .text "AppSetting" found hrecord

theorem lists_json (l : List AppSetting) : Lists GivenBy (Value.ofItems (l.map json)).text l := by
  refine lists_of_json (fun s => rfl) (fun s => ?_) (fun s => ⟨rfl, .given rfl, .given rfl⟩) l
  simp only [List.forall_mem_cons]
  exact ⟨.string _, .string _, .bool _, List.forall_mem_nil _⟩

end AppSetting

namespace ConnectionSetting

def GivenBy (members : Members) (s : ConnectionSetting) : Prop :=
  members.Describes s.name s.value ["type", "Type"] (.string (some s.kind.text)) (s.kind = .custom)

theorem apart : Apart fields := by decide

theorem decode_given {es : List (String × Node)} {s : ConnectionSetting} (h : GivenBy (.ofList es) s)
    (hskip : ∀ e ∈ es, e.2.skip = .ok ()) : decode (.object (.ofList es)) = .ok s := by
  obtain ⟨found, hrecord, hname, hvalue, hkind⟩ :=
    h.record s.kind.decode_text apart hskip .text "ConnectionStringSetting"
  rw [decode, fields, hrecord]
  simp only [bind, Except.bind, hname, hvalue, hkind]
  rfl

theorem decode_ne_ok {members : Members} (h : members.IsFaulty ["type", "Type"])
    (s : ConnectionSetting) : decode (.object members) ≠ .ok s := by
  intro hdecode
  obtain ⟨found, hrecord, -⟩ := bind_eq_ok_iff.1 hdecode
  exact h.record_ne_ok apart .text "ConnectionStringSetting" found hrecord

theorem lists_json (l : List ConnectionSetting) : Lists GivenBy (Value.ofItems (l.map json)).text l := by
  refine lists_of_json (fun s => rfl) (fun s => ?_) (fun s => ⟨rfl, .given rfl, .given rfl⟩) l
  simp only [List.forall_mem_cons]
  exact ⟨.string _, .string _, .string _, List.forall_mem_nil _⟩

end ConnectionSetting

namespace Desired

variable {α : Type} {d : Decoder α} {v : Variables} {name text : String} {ns : List Node} {l : List α}

theorem items_of_text (htext : v.get? name = some text) (h : IsText text (.array (.ofList ns))) :
    items d v name = (Decoder.list d (.array (.ofList ns))).mapError .json := by
  have hsome : v.nonBlank? name = some text := by
    rw [Variables.nonBlank?, htext, Option.filter_some, h.not_blank]
    rfl
  rw [items, hsome]
  simp only [decodeText_of_read h.read_eq]

theorem items_of_lists {gives : Members → α → Prop}
    (hd : ∀ {es s}, gives (.ofList es) s → (∀ e ∈ es, e.2.skip = .ok ()) → d (.object (.ofList es)) = .ok s)
    (htext : v.get? name = some text) (h : Lists gives text l) : items d v name = .ok l := by
  obtain ⟨objects, htree, hgives⟩ := h
  have hskip := Items.forall_skip_of_ofList (IsElement.skip_eq htree)
  have hwhole : ∀ es ∈ objects, ∀ e ∈ es, e.2.skip = .ok () := fun es hes =>
    Members.forall_skip_of_ofList (hskip _ (List.mem_map_of_mem hes))
  have hdecode : Forall₂ (fun n a => d n = .ok a) (objects.map fun es => .object (.ofList es)) l :=
    List.forall₂_map_left_iff.2
      (((List.forall₂_and_left objects l).2 ⟨hwhole, hgives⟩).imp fun es s h => hd h.2 h.1)
  rw [items_of_text htext htree, Decoder.list_ofList_eq_ok_iff.2 hdecode]
  rfl

theorem items_ne_ok {n : Node} (hd : ∀ a, d n ≠ .ok a) (hn : n ∈ ns) (htext : v.get? name = some text)
    (h : IsText text (.array (.ofList ns))) (l : List α) : items d v name ≠ .ok l := by
  rw [items_of_text htext h]
  exact fun hitems => Decoder.list_ne_ok_of_mem hn hd l (mapError_eq_ok_iff.1 hitems)

theorem items_eq_error {e : Error} (h : items d v name = .error e) : ∃ f, e = .json f := by
  unfold items at h
  split at h
  · obtain ⟨f, -, rfl⟩ := mapError_eq_error_iff.1 h
    exact ⟨f, rfl⟩
  · cases h

theorem ofVariables_eq_error
    (h : (∀ l, items AppSetting.decode v Variable.appSettings ≠ .ok l) ∨
      ∀ l, items ConnectionSetting.decode v Variable.connectionStrings ≠ .ok l) :
    ∃ e, ofVariables v = .error (.json e) := by
  unfold ofVariables
  cases hsettings : items AppSetting.decode v Variable.appSettings with
  | error e =>
      obtain ⟨f, rfl⟩ := items_eq_error hsettings
      exact ⟨f, rfl⟩
  | ok settings =>
      cases hconnections : items ConnectionSetting.decode v Variable.connectionStrings with
      | error e =>
          obtain ⟨f, rfl⟩ := items_eq_error hconnections
          exact ⟨f, rfl⟩
      | ok connections =>
          rcases h with h | h
          · exact absurd hsettings (h settings)
          · exact absurd hconnections (h connections)

def texts (v : Variables) (settings connections : String) : Variables :=
  (v.insert Variable.appSettings settings).insert Variable.connectionStrings connections

theorem get?_texts (v : Variables) (settings connections : String) :
    (texts v settings connections).get? Variable.appSettings = some settings ∧
      (texts v settings connections).get? Variable.connectionStrings = some connections := by
  constructor
  · rw [texts, Table.get?_insert, if_neg (by decide), Table.get?_insert, if_pos rfl]
  · rw [texts, Table.get?_insert, if_pos rfl]

def write (d : Desired) (v : Variables) : Variables :=
  texts v (Value.ofItems (d.appSettings.map AppSetting.json)).text
    (Value.ofItems (d.connections.map ConnectionSetting.json)).text

theorem ofVariables_of_lists {d : Desired} {settings connections : String}
    (hsettings : v.get? Variable.appSettings = some settings)
    (hconnections : v.get? Variable.connectionStrings = some connections)
    (hs : Lists AppSetting.GivenBy settings d.appSettings)
    (hc : Lists ConnectionSetting.GivenBy connections d.connections) : ofVariables v = .ok d := by
  have hs : items AppSetting.decode v Variable.appSettings = .ok d.appSettings :=
    items_of_lists AppSetting.decode_given hsettings hs
  have hc : items ConnectionSetting.decode v Variable.connectionStrings = .ok d.connections :=
    items_of_lists ConnectionSetting.decode_given hconnections hc
  rw [ofVariables, hs, hc]
  rfl

/-- Texts that list settings are read as exactly these, and so are the texts that are written for them.
An object that gives a member twice or no name, in either text, leaves nothing of both. -/
theorem ofVariables_written (v : Variables) :
    (∀ (d : Desired) (settings connections : String),
      v.get? Variable.appSettings = some settings →
      v.get? Variable.connectionStrings = some connections →
      Lists AppSetting.GivenBy settings d.appSettings →
      Lists ConnectionSetting.GivenBy connections d.connections → ofVariables v = .ok d) ∧
    (∀ d : Desired, ofVariables (d.write v) = .ok d) ∧
    ∀ (text : String) (ns : List Node) (members : Members),
      IsText text (.array (.ofList ns)) → .object members ∈ ns →
      (v.get? Variable.appSettings = some text ∧ members.IsFaulty ["slotSetting", "SlotSetting"]) ∨
        (v.get? Variable.connectionStrings = some text ∧ members.IsFaulty ["type", "Type"]) →
      ∃ e, ofVariables v = .error (.json e) := by
  refine ⟨fun d settings connections hsettings hconnections hs hc =>
    ofVariables_of_lists hsettings hconnections hs hc, fun d => ?_, fun text ns members htext hmem h => ?_⟩
  · exact ofVariables_of_lists (get?_texts v _ _).1 (get?_texts v _ _).2
      (AppSetting.lists_json d.appSettings) (ConnectionSetting.lists_json d.connections)
  · rcases h with ⟨hv, hfaulty⟩ | ⟨hv, hfaulty⟩
    · exact ofVariables_eq_error (.inl (items_ne_ok (AppSetting.decode_ne_ok hfaulty) hmem hv htext))
    · exact ofVariables_eq_error (.inr (items_ne_ok (ConnectionSetting.decode_ne_ok hfaulty) hmem hv htext))

def shuffledSetting : List (String × Value) :=
  [("SlotSetting", .bool true), ("note", .ofItems [.string "name"]), ("Name", .string "X")]

def shuffledConnection : List (String × Value) :=
  [("Type", .string "MySql"), ("Value", .string "\"1\""), ("name", .string "db")]

def doubledConnection : List (String × Value) := [("name", .string "db"), ("Name", .string "db")]

def textVariables (setting connection : List (String × Value)) : Variables :=
  texts {} (Value.ofItems ([setting].map .ofFields)).text (Value.ofItems ([connection].map .ofFields)).text

theorem ofVariables_written_shuffled :
    ofVariables (textVariables shuffledSetting shuffledConnection) =
        .ok ⟨[⟨"X", "", true⟩], [⟨"db", "\"1\"", .mySql⟩]⟩ ∧
      ∃ e, ofVariables (textVariables shuffledSetting doubledConnection) = .error (.json e) := by
  have hnote : (Value.ofItems [.string "name"]).Written :=
    .ofItems (List.forall_mem_singleton.2 (.string "name"))
  have hsetting : ∀ fields ∈ [shuffledSetting], ∀ e ∈ fields, e.2.Written := by
    simp only [List.forall_mem_singleton, shuffledSetting, List.forall_mem_cons]
    exact ⟨.bool true, hnote, .string "X"⟩
  have hconnection : ∀ fields ∈ [shuffledConnection], ∀ e ∈ fields, e.2.Written := by
    simp only [List.forall_mem_singleton, shuffledConnection, List.forall_mem_cons]
    exact ⟨.string "MySql", .string "\"1\"", .string "db"⟩
  have hdoubled : ∀ fields ∈ [doubledConnection], ∀ e ∈ fields, e.2.Written := by
    simp only [List.forall_mem_singleton, doubledConnection, List.forall_mem_cons]
    exact ⟨.string "db", .string "db"⟩
  have hs : Lists AppSetting.GivenBy (Value.ofItems ([shuffledSetting].map .ofFields)).text
      [⟨"X", "", true⟩] :=
    ⟨_, isText_objects hsetting, .cons ⟨rfl, .omitted rfl rfl, .given rfl⟩ .nil⟩
  have hc : Lists ConnectionSetting.GivenBy (Value.ofItems ([shuffledConnection].map .ofFields)).text
      [⟨"db", "\"1\"", .mySql⟩] :=
    ⟨_, isText_objects hconnection, .cons ⟨rfl, .given rfl, .given rfl⟩ .nil⟩
  obtain ⟨hget, hget'⟩ := get?_texts {} (Value.ofItems ([shuffledSetting].map .ofFields)).text
    (Value.ofItems ([shuffledConnection].map .ofFields)).text
  have hfaulty : (Members.ofList (nodes doubledConnection)).IsFaulty ["type", "Type"] :=
    .inl ⟨["name", "Name"], by simp, Nat.le_refl 2⟩
  refine ⟨(ofVariables_written _).1 _ _ _ hget hget' hs hc, ?_⟩
  exact (ofVariables_written _).2.2 _ _ _ (isText_objects hdoubled) List.mem_cons_self
    (.inr ⟨(get?_texts {} _ _).2, hfaulty⟩)

end Desired

end WebAppTargets
