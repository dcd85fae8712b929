import WebAppTargets.Discovery.Run
import WebAppTargets.Proofs.Registration

namespace WebAppTargets

theorem ServiceMessage.not_parse_of_head {line : String} {c : Char} {s : List Char}
    (h : line.toList = c :: s) (hblank : Text.isBlank c = false) (hmark : c ≠ '#') :
    (parse line).isOk = false := by
  have hstart : Text.dropStart? opening.toList (Text.trim line.toList) = none := by
    have hnot : ¬opening.toList <+: Text.trim line.toList := by
      intro hp
      rw [Text.trim, h, Text.trimStart_cons hblank] at hp
      exact hmark (List.cons_prefix_cons.1 (hp.trans (Text.trimEnd_isPrefix _))).1.symm
    rw [Text.dropStart?, if_neg (by simpa using hnot)]
  have hread : read line = .error .noEnvelope := by
    rw [read, hstart]
    rfl
  rw [parse, hread]
  rfl

namespace Log

def accepted (log : Log) : List String := log.output.filter fun s => (ServiceMessage.parse s).isOk

theorem accepted_append (a b : Log) : accepted (a ++ b) = a.accepted ++ b.accepted := by
  rw [accepted, output, List.filterMap_append, List.filter_append]
  rfl

end Log

namespace Discovery

def announcement (m : Match) : Log :=
  [.line .debug s!"Discovered matching web app target {m.target}", .message m.message]

theorem announce_apply {σ : Type} (l : List Match) (w : World σ) :
    announce l w = (.ok (), { w with log := w.log ++ l.flatMap announcement }) := by
  induction l generalizing w with
  | nil =>
      rw [List.flatMap_nil, List.append_nil]
      rfl
  | cons m l ih =>
      have hstep : announce (m :: l) w = announce l { w with log := w.log ++ announcement m } := by
        rw [announcement, List.append_cons]
        rfl
      rw [hstep, ih, List.append_assoc, List.flatMap_cons]

theorem accepted_announcement (m : Match) : (announcement m).accepted = [m.message.text] := by
  have hline :
      (ServiceMessage.parse s!"Discovered matching web app target {m.target}").isOk = false :=
    ServiceMessage.not_parse_of_head (c := 'D') (s := "iscovered matching web app target ".toList ++
      m.target.toList) (by simp [toString]) (by decide) (by decide)
  have hmessage : (ServiceMessage.parse m.message.text).isOk := by
    rw [ServiceMessage.parse_text m.message_wellFormed]
    rfl
  change [s!"Discovered matching web app target {m.target}", m.message.text].filter _ = _
  rw [List.filter_cons_of_neg (by simp [hline]),
    List.filter_cons_of_pos (p := fun s => (ServiceMessage.parse s).isOk) hmessage, List.filter_nil]

theorem accepted_announcements (l : List Match) :
    Log.accepted (l.flatMap announcement) = l.map (·.message.text) := by
  induction l with
  | nil => rfl
  | cons m l ih => rw [List.flatMap_cons, Log.accepted_append, accepted_announcement, ih, List.map_cons,
      List.singleton_append]

end Discovery

end WebAppTargets
