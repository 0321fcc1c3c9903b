import TopicWire.Proofs.CaptureAccount
import TopicWire.Proofs.QuotedText

/-!
# One datagram is one line of the report

The lines of a report say what was on the wire, and a message on the wire may be any bytes. Each
thing that a line is made of stays on its line: labels, numbers, bytes in hexadecimal, and messages
because they are quoted (`Datagram.staysOnLine_describe`). What one attempt to read adds to the
report does (`Report.staysOnLine_observe`), so what all of them add does
(`Report.staysOnLine_observeAll`), and so does the whole report (`Report.staysOnLine_ofCapture`).
Printed, it therefore falls into its lines at its newlines (`Report.splitOn_printed`). A description
of a refusal is a list of words with blanks between them and a quoted text at the end, so it tells
what it was made of. The two together are `Report.datagram_lines_unforgeable`.
-/

set_option autoImplicit false
set_option relaxedAutoImplicit false

namespace TopicWire

open Text

/-! ### Every line of a report stays on its line -/

theorem Kind.staysOnLine_label (kind : Kind) : StaysOnLine kind.label := by
  cases kind <;> decide

theorem EndReason.staysOnLine_label (reason : EndReason) : StaysOnLine reason.label := by
  cases reason <;> decide

theorem ObjectAction.staysOnLine_label (action : ObjectAction) : StaysOnLine action.label := by
  cases action <;> decide

theorem TopicAction.staysOnLine_label (action : TopicAction) : StaysOnLine action.label := by
  cases action <;> decide

theorem TopicResponse.staysOnLine_label (response : TopicResponse) :
    StaysOnLine response.label := by
  cases response <;> decide

theorem IdSet.staysOnLine_structured (s : IdSet) : StaysOnLine s.structured := by
  have hitems : StaysOnLine (listed (s.ids.map fun id ↦ toString id.toNat)) := by
    refine staysOnLine_listed (List.forall_mem_map.mpr fun id _ ↦ ?_)
    exact staysOnLine_toString _
  rw [structured, braced, staysOnLine_append, staysOnLine_append]
  exact ⟨⟨by decide, hitems⟩, by decide⟩

/-- The description of a datagram stays on its line, whatever message or payload is in it. -/
theorem Datagram.staysOnLine_describe (d : Datagram) : StaysOnLine d.describe := by
  unfold describe
  cases d with
  | connect | serverStatus | heartbeat | heartbeatRequest => decide
  | connectNack nack => exact staysOnLine_quoted _
  | objectRequestAck ack =>
    have hfinal :
        StaysOnLine (ack.finalObjectId.elim "" fun id ↦ " final=" ++ toString id.toNat) := by
      cases ack.finalObjectId with
      | none => decide
      | some id => exact staysOnLine_append.mpr ⟨by decide, staysOnLine_toString _⟩
    simp only [staysOnLine_append, staysOnLine_toString, staysOnLine_marked, hfinal, and_true]
    decide
  | _ =>
    simp only [staysOnLine_append, staysOnLine_toString, staysOnLine_marked,
      staysOnLine_encode, staysOnLine_quoted, EndReason.staysOnLine_label,
      ObjectAction.staysOnLine_label, TopicAction.staysOnLine_label,
      TopicResponse.staysOnLine_label, IdSet.staysOnLine_structured, and_true, true_and]
    decide

theorem OutOfBounds.staysOnLine_message (access : OutOfBounds) : StaysOnLine access.message := by
  unfold message
  simp only [staysOnLine_append, staysOnLine_toString, and_true]
  decide

theorem ProtocolError.staysOnLine_message (reason : ProtocolError) :
    StaysOnLine reason.message := by
  unfold message
  cases reason <;>
    simp only [staysOnLine_append, staysOnLine_toString, staysOnLine_marked,
      Kind.staysOnLine_label, and_true] <;>
    decide

theorem Fault.staysOnLine_message (fault : Fault) : StaysOnLine fault.message := by
  cases fault with
  | refused reason => exact reason.staysOnLine_message
  | outOfBounds access => exact access.staysOnLine_message

theorem Sequence.Order.staysOnLine_structured (order : Order) : StaysOnLine order.structured := by
  cases order with
  | gap missing =>
    have hname : StaysOnLine "missing" := by decide
    have hvalue : StaysOnLine (toString missing.toNat) := staysOnLine_toString _
    exact staysOnLine_record (by decide) (List.forall_mem_singleton.mpr ⟨hname, hvalue⟩)
  | _ => decide

theorem Level.staysOnLine_label (level : Level) : StaysOnLine level.label := by
  cases level <;> decide

namespace Event

/-- An event stays on its line if what it shows of its particulars does. -/
theorem staysOnLine_line {event : Event}
    (h : ∀ value ∈ event.fields.map Prod.snd, StaysOnLine value) : StaysOnLine event.line := by
  have hsource : StaysOnLine event.source := by
    unfold source
    split <;> decide
  have hmessage : StaysOnLine event.message := by
    unfold message
    split <;> decide
  have hnames : ∀ name ∈ event.fields.map Prod.fst, StaysOnLine name := by
    unfold fields
    cases event <;> simp only [List.map_cons, List.map_nil] <;> decide
  have hfields : ∀ text ∈ event.fields.map (fun field ↦ " " ++ field.1 ++ "=" ++ field.2),
      StaysOnLine text := by
    refine List.forall_mem_map.mpr fun field hfield ↦ ?_
    have hname := hnames _ (List.mem_map_of_mem hfield)
    have hvalue := h _ (List.mem_map_of_mem hfield)
    simp only [staysOnLine_append, hname, hvalue, and_true]
    decide
  unfold line
  simp only [staysOnLine_append, staysOnLine_join, Level.staysOnLine_label, hsource, hmessage,
    true_and, and_true]
  exact ⟨by decide, hfields⟩

/-! The events on a capture show kinds, numbers, faults and orders. -/

theorem staysOnLine_line_decoded (kind : Kind) (consumed : Nat) :
    StaysOnLine (decoded kind consumed).line :=
  staysOnLine_line (List.forall_mem_cons.mpr
    ⟨kind.staysOnLine_label, List.forall_mem_singleton.mpr (staysOnLine_toString _)⟩)

theorem staysOnLine_line_rejected (kind : Kind) (available : Nat) (fault : Fault) :
    StaysOnLine (rejected kind available fault).line :=
  staysOnLine_line (List.forall_mem_cons.mpr
    ⟨kind.staysOnLine_label, List.forall_mem_cons.mpr
      ⟨staysOnLine_toString _, List.forall_mem_singleton.mpr fault.staysOnLine_message⟩⟩)

theorem staysOnLine_line_anomaly (offset : Nat) (order : Sequence.Order) :
    StaysOnLine (anomaly offset order).line :=
  staysOnLine_line (List.forall_mem_cons.mpr
    ⟨staysOnLine_toString _, List.forall_mem_singleton.mpr order.staysOnLine_structured⟩)

theorem staysOnLine_line_incomplete (offset : Nat) (fault : Fault) :
    StaysOnLine (incomplete offset fault).line :=
  staysOnLine_line (List.forall_mem_cons.mpr
    ⟨staysOnLine_toString _, List.forall_mem_singleton.mpr fault.staysOnLine_message⟩)

end Event

namespace Stats

theorem staysOnLine_kindLine (entry : Kind × UInt64) : StaysOnLine (kindLine entry) := by
  unfold kindLine
  simp only [staysOnLine_append, staysOnLine_flushLeft, Kind.staysOnLine_label,
    staysOnLine_toString, and_true]
  decide

theorem staysOnLine_topicLine (entry : UInt64 × TopicTrack) : StaysOnLine (topicLine entry) := by
  unfold topicLine
  simp only [staysOnLine_append, staysOnLine_flushLeft, staysOnLine_toString, and_true]
  decide

/-- The lines of a summary stay on their lines. -/
theorem staysOnLine_summary (stats : Stats) (total : Nat) :
    ∀ line ∈ stats.summary total, StaysOnLine line := by
  have hheading : ∀ line ∈ ["", "📊 Capture Summary",
      "   Datagrams:     " ++ toString stats.datagrams.toNat,
      "   Bytes decoded: " ++ toString stats.bytesDecoded.toNat ++ " / " ++ toString total],
      StaysOnLine line := by
    simp only [List.forall_mem_cons, staysOnLine_append, staysOnLine_toString, and_true]
    decide
  have hkinds : ∀ line ∈ (byCode stats.perKind).map kindLine, StaysOnLine line :=
    List.forall_mem_map.mpr fun entry _ ↦ staysOnLine_kindLine entry
  have htopics : ∀ line ∈ topicLines stats.topics, StaysOnLine line := by
    unfold topicLines
    split
    · decide
    · refine List.forall_mem_append.mpr ⟨by decide, ?_⟩
      exact List.forall_mem_map.mpr fun entry _ ↦ staysOnLine_topicLine entry
  have hstopped : ∀ line ∈ stoppedLines stats.stopped, StaysOnLine line := by
    unfold stoppedLines
    split
    · decide
    · simp only [List.forall_mem_cons, staysOnLine_append, staysOnLine_toString,
        Fault.staysOnLine_message, and_true]
      decide
  unfold summary
  simp only [List.forall_mem_append]
  exact ⟨⟨⟨hheading, hkinds⟩, htopics⟩, hstopped⟩

end Stats

/-- The line of a datagram stays on its line. -/
theorem Entry.staysOnLine_line_datagram (offset : Nat) (d : Datagram) :
    StaysOnLine (datagram offset d).line := by
  unfold line
  simp only [staysOnLine_append, staysOnLine_flushLeft, staysOnLine_flushRight,
    staysOnLine_toString, Kind.staysOnLine_label, Datagram.staysOnLine_describe, and_true]
  decide

namespace Report

theorem staysOnLine_anomaly (offset : Nat) (order? : Option Sequence.Order) :
    ∀ entry ∈ anomaly offset order?, StaysOnLine entry.line := by
  rcases order? with _ | order
  · exact List.forall_mem_nil _
  · cases order with
    | gap missing =>
      exact List.forall_mem_singleton.mpr (Event.staysOnLine_line_anomaly offset (.gap missing))
    | reordered =>
      exact List.forall_mem_singleton.mpr (Event.staysOnLine_line_anomaly offset .reordered)
    | inOrder | duplicate => exact List.forall_mem_nil _

/-- What one attempt adds to a report stays on its lines. -/
theorem staysOnLine_observe (quiet : Bool) (stats : Stats) (attempt : Attempt) :
    ∀ entry ∈ (observe quiet stats attempt).1, StaysOnLine entry.line := by
  unfold observe
  split
  · next d consumed _ =>
    have hline : ∀ entry ∈ if quiet then [] else [Entry.datagram attempt.offset d],
        StaysOnLine entry.line := by
      split
      · exact List.forall_mem_nil _
      · exact List.forall_mem_singleton.mpr (Entry.staysOnLine_line_datagram attempt.offset d)
    refine List.forall_mem_cons.mpr ⟨Event.staysOnLine_line_decoded d.kind consumed, ?_⟩
    exact List.forall_mem_append.mpr ⟨hline, staysOnLine_anomaly attempt.offset _⟩
  · next fault _ =>
    refine List.forall_mem_map.mpr fun kind _ ↦ ?_
    exact Event.staysOnLine_line_rejected kind attempt.input.length fault

/-- What any attempts add to a report stays on its lines. -/
theorem staysOnLine_observeAll (quiet : Bool) (stats : Stats) (attempts : List Attempt) :
    ∀ entry ∈ (observeAll quiet stats attempts).1, StaysOnLine entry.line := by
  induction attempts generalizing stats with
  | nil => exact List.forall_mem_nil _
  | cons attempt attempts ih =>
    rw [observeAll_cons]
    exact List.forall_mem_append.mpr ⟨staysOnLine_observe quiet stats attempt, ih _⟩

/-- A report on a capture stays on its lines. -/
theorem staysOnLine_ofCapture (quiet : Bool) (capture : Bytes) :
    ∀ entry ∈ ofCapture quiet capture, StaysOnLine entry.line := by
  unfold ofCapture
  refine List.forall_mem_append.mpr ⟨List.forall_mem_append.mpr ⟨?_, ?_⟩, ?_⟩
  · exact staysOnLine_observeAll quiet .fresh _
  · exact List.forall_mem_map.mpr (Stats.staysOnLine_summary _ _)
  · intro entry hentry
    obtain ⟨⟨offset, fault⟩, -, rfl⟩ := Option.map_eq_some_iff.mp (Option.mem_toList.mp hentry)
    exact Event.staysOnLine_line_incomplete offset fault

/-! ### The printed report -/

/-- The text that lines are printed as, each with a newline after it. -/
def printed (lines : List String) : List Char := lines.flatMap fun line ↦ line.toList ++ ['\n']

/-- Lines that stay on their lines are printed so that nothing else can be read from the text: cut
at its newlines it falls into these lines, and nothing after the last newline. -/
theorem splitOn_printed {lines : List String} (h : ∀ line ∈ lines, StaysOnLine line) :
    (printed lines).splitOn '\n' = lines.map String.toList ++ [[]] := by
  have hnewline : IsControl '\n' := by decide
  induction lines with
  | nil => rfl
  | cons line lines ih =>
    rw [List.forall_mem_cons] at h
    have hline : '\n' ∉ line.toList := fun hmem ↦ h.1 '\n' hmem hnewline
    have hprinted : printed (line :: lines) = line.toList ++ '\n' :: printed lines := by
      simp [printed]
    rw [hprinted, List.splitOn_append_cons_self_of_not_mem hline, ih h.2]
    rfl

/-- A filter leaves out no line of a datagram. -/
theorem filterMap_datagram?_filter_shown (filter : LogFilter) (entries : List Entry) :
    (entries.filter (Entry.shown filter)).filterMap Entry.datagram? =
      entries.filterMap Entry.datagram? := by
  rw [List.filterMap_filter]
  refine List.filterMap_congr fun entry _ ↦ ?_
  cases entry with
  | event e => cases Entry.shown filter (.event e) <;> rfl
  | _ => rfl

/-- The datagrams that a report shows are those of the capture, each with the number of bytes before
it. -/
theorem datagrams_ofCapture (capture : Bytes) :
    (ofCapture false capture).filterMap Entry.datagram? =
      (datagramsOf (Reader.items capture)).mapIdx fun i d ↦
        (Datagram.encodedLengths ((datagramsOf (Reader.items capture)).take i), d) := by
  obtain ⟨ds, rest, stop, hreads⟩ := Reads.exists_reads capture
  have hread : datagramsOf (Reader.items capture) = ds := by
    rw [Reader.items, hreads.drain_eq.1, datagramsOf_itemsOf]
  have hsummary : ∀ lines : List String,
      (lines.map Entry.summary).filterMap Entry.datagram? = [] := by
    intro lines
    rw [List.filterMap_map]
    exact List.filterMap_eq_nil_iff.mpr fun _ _ ↦ rfl
  have hwarning : ∀ stopped : Option (Nat × Fault),
      ((stopped.map fun stop ↦ Entry.event (.incomplete stop.1 stop.2)).toList).filterMap
        Entry.datagram? = [] := by
    intro stopped
    cases stopped <;> rfl
  unfold ofCapture
  rw [hread, inspect_of_reads hreads]
  simp only [List.filterMap_append, hsummary, hwarning, List.append_nil, datagrams_observeAll,
    Nat.zero_add, Bool.false_eq_true, if_false]

end Report

/-! ### What a description tells -/

namespace TopicResponse

theorem not_mem_blank_label (response : TopicResponse) : ' ' ∉ response.label.toList := by
  cases response <;> decide

theorem label_inj {r s : TopicResponse} : r.label = s.label ↔ r = s := by
  cases r <;> cases s <;> decide

end TopicResponse

namespace Datagram

/-- The description of a refused connection tells its message. -/
theorem describe_connectNack_eq_iff {a b : ConnectNack} :
    (connectNack a).describe = (connectNack b).describe ↔ a.message.text = b.message.text :=
  quoted_inj

/-- The description of a refused topic request tells its response and its message. -/
theorem describe_topicRequestNack_eq_iff {a b : TopicRequestNack} :
    (topicRequestNack a).describe = (topicRequestNack b).describe ↔
      a.response = b.response ∧ a.message.text = b.message.text := by
  show a.response.label ++ " " ++ quoted a.message.text =
    b.response.label ++ " " ++ quoted b.message.text ↔ _
  rw [append_blank_inj a.response.not_mem_blank_label b.response.not_mem_blank_label,
    TopicResponse.label_inj, quoted_inj]

/-- The description of a refused object request tells its flag, its object and its message. -/
theorem describe_objectRequestNack_eq_iff {a b : ObjectRequestNack} :
    (objectRequestNack a).describe = (objectRequestNack b).describe ↔
      a.flag = b.flag ∧ a.objectId = b.objectId ∧ a.message.text = b.message.text := by
  have hfields : ∀ nack : ObjectRequestNack, (objectRequestNack nack).describe =
      ("flag=" ++ Hex.marked nack.flag) ++ " " ++
        (("object=" ++ toString nack.objectId.toNat) ++ " " ++ quoted nack.message.text) := by
    intro nack
    have hobject : " object=" = " " ++ "object=" := by decide
    unfold describe
    simp only [hobject, String.append_assoc]
  have hflag : ∀ flag : Flag, ' ' ∉ ("flag=" ++ Hex.marked flag).toList := by
    intro flag
    rw [String.toList_append, List.mem_append, not_or]
    exact ⟨by decide, not_mem_blank_marked flag⟩
  have hobject : ∀ id : UInt64, ' ' ∉ ("object=" ++ toString id.toNat).toList := by
    intro id
    rw [String.toList_append, List.mem_append, not_or]
    exact ⟨by decide, not_mem_blank_toString id.toNat⟩
  rw [hfields, hfields, append_blank_inj (hflag _) (hflag _),
    append_blank_inj (hobject _) (hobject _), String.append_right_inj, String.append_right_inj,
    marked_inj, toString_inj, UInt64.toNat_inj, quoted_inj]

end Datagram

/-- One datagram is one line of the report, and the line cannot be forged.

No control character is in a description, so a report that is not quiet, whatever filter the log has
and on whatever capture, is printed as its lines and nothing else: the text falls into them at its
newlines, and those of datagrams are one for each datagram of the capture, in order, and each ends
in the description of its datagram. A message that is shown can be read back from its quotes. So
descriptions of two refusals of a kind are equal only if the messages, read as text, are equal, and
with them the response or the flag and the object. -/
theorem Report.datagram_lines_unforgeable :
    (∀ d : Datagram, StaysOnLine d.describe) ∧
      (∀ (capture : Bytes) (filter : LogFilter),
        let shown := (ofCapture false capture).filter (Entry.shown filter)
        let read := datagramsOf (Reader.items capture)
        (printed (lines filter (ofCapture false capture))).splitOn '\n' =
            shown.map (fun entry ↦ entry.line.toList) ++ [[]] ∧
          shown.filterMap Entry.datagram? =
            read.mapIdx fun i d ↦ (Datagram.encodedLengths (read.take i), d)) ∧
      (∀ offset d, (Entry.datagram offset d).line =
        String.leftpad 8 ' ' (toString offset) ++ "  " ++ String.rightpad 20 ' ' d.kind.label ++
          " " ++ d.describe) ∧
      (∀ text, unquote? (quoted text) = some text) ∧
      (∀ a b : ConnectNack,
        (Datagram.connectNack a).describe = (Datagram.connectNack b).describe ↔
          a.message.text = b.message.text) ∧
      (∀ a b : TopicRequestNack,
        (Datagram.topicRequestNack a).describe = (Datagram.topicRequestNack b).describe ↔
          a.response = b.response ∧ a.message.text = b.message.text) ∧
      ∀ a b : ObjectRequestNack,
        (Datagram.objectRequestNack a).describe = (Datagram.objectRequestNack b).describe ↔
          a.flag = b.flag ∧ a.objectId = b.objectId ∧ a.message.text = b.message.text := by
  refine ⟨Datagram.staysOnLine_describe, ?_, Entry.line_datagram, unquote?_quoted,
    fun _ _ ↦ Datagram.describe_connectNack_eq_iff,
    fun _ _ ↦ Datagram.describe_topicRequestNack_eq_iff,
    fun _ _ ↦ Datagram.describe_objectRequestNack_eq_iff⟩
  intro capture filter shown read
  have hshown : ∀ line ∈ lines filter (ofCapture false capture), StaysOnLine line := by
    refine List.forall_mem_map.mpr fun entry hentry ↦ ?_
    exact staysOnLine_ofCapture false capture entry (List.mem_of_mem_filter hentry)
  constructor
  · rw [splitOn_printed hshown, lines, List.map_map]
    rfl
  · rw [filterMap_datagram?_filter_shown, datagrams_ofCapture]

end TopicWire
