import Mathlib.Data.String.Defs
import TopicWire.Capture.Report

/-!
# The text of a report

What the lines of a report read like. `Event.line_eq` spells the line of each event, and
`Entry.line_datagram` that of a datagram: its offset set flush right, its kind set flush left, and
its description.

A line of the log begins with the name of its level (`isLogLine_line`), and the line of a datagram
never does (`isLogLine_datagram`), for it begins with a blank or a digit. So the two are told apart
by their text: without its log lines a report that is not yet summed up is the lines of its
datagrams (`Report.filter_not_isLogLine_lines`), and where debug events are shown, as many of its
lines begin like an anomaly as it has anomalies (`Report.countP_begins_anomaly_lines`).
-/

set_option autoImplicit false
set_option relaxedAutoImplicit false

namespace TopicWire

namespace Text

theorem toList_leftpad (width : Nat) (cell : String) :
    (String.leftpad width ' ' cell).toList =
      List.replicate (width - cell.length) ' ' ++ cell.toList :=
  String.toList_ofList

theorem flushRight_eq_leftpad (width : Nat) (cell : String) :
    flushRight width cell = String.leftpad width ' ' cell := by
  refine String.toList_injective ?_
  rw [toList_leftpad, flushRight, filler, String.toList_append, String.toList_ofList]

theorem flushLeft_eq_rightpad (width : Nat) (cell : String) :
    flushLeft width cell = String.rightpad width ' ' cell := rfl

/-- Whether a line begins with a text. -/
def begins (start line : String) : Bool := start.toList.isPrefixOf line.toList

theorem begins_append_left (start later : String) : begins start (start ++ later) = true := by
  rw [begins, List.isPrefixOf_iff_prefix, String.toList_append]
  exact List.prefix_append _ _

/-- What a line begins with is settled by its first part, if that is long enough. -/
theorem begins_append_of_le {start first : String} (h : start.length ≤ first.length)
    (later : String) : begins start (first ++ later) = begins start first := by
  rw [Bool.eq_iff_iff, begins, begins, List.isPrefixOf_iff_prefix, List.isPrefixOf_iff_prefix,
    String.toList_append]
  constructor
  · intro hstart
    exact List.prefix_of_prefix_length_le hstart (List.prefix_append _ _) h
  · intro hstart
    exact hstart.trans (List.prefix_append _ _)

end Text

open Text

/-! ### Single lines -/

/-- The line of an event. -/
theorem Event.line_eq (event : Event) :
    event.line =
      match event with
      | opening path hex =>
        "INFO rekt_inspect: opening capture path=" ++ path ++ " hex=" ++
          if hex then "true" else "false"
      | decoded kind consumed =>
        "TRACE rekt_protocol::protocol::datagram: decoded datagram kind=" ++ kind.label ++
          " consumed=" ++ toString consumed
      | rejected kind available fault =>
        "DEBUG rekt_protocol::protocol::datagram: datagram rejected kind=" ++ kind.label ++
          " available=" ++ toString available ++ " error=" ++ fault.message
      | anomaly offset order =>
        "DEBUG rekt_inspect: sequence anomaly offset=" ++ toString offset ++ " order=" ++
          order.structured
      | incomplete offset fault =>
        "WARN rekt_inspect: capture not fully decoded offset=" ++ toString offset ++ " error=" ++
          fault.message
      | sampleWritten path bytes =>
        "INFO rekt_inspect: sample capture written path=" ++ path ++ " bytes=" ++
          toString bytes := by
  cases event <;>
    · simp only [line, Level.label, level, source, message, fields, List.map_cons, List.map_nil,
        String.join_cons, String.join_nil, String.append_empty]
      simp only [← String.append_assoc, String.reduceAppend]

/-- The line of a datagram ends in its description. -/
theorem Entry.line_datagram (offset : Nat) (d : Datagram) :
    (datagram offset d).line =
      String.leftpad 8 ' ' (toString offset) ++ "  " ++ String.rightpad 20 ' ' d.kind.label ++
        " " ++ d.describe := by
  rw [← flushRight_eq_leftpad, ← flushLeft_eq_rightpad]
  rfl

/-- The line of a datagram begins with a blank or a digit, and so with no text that begins
otherwise. -/
theorem Entry.begins_line_datagram {start : String} {letter : Char}
    (hstart : start.toList.head? = some letter) (hblank : letter ≠ ' ')
    (hdigit : letter.isDigit = false) (offset : Nat) (d : Datagram) :
    begins start (datagram offset d).line = false := by
  have hcell : ∀ c ∈ (String.leftpad 8 ' ' (toString offset)).toList,
      c = ' ' ∨ c.isDigit = true := by
    intro c hc
    rw [toList_leftpad, List.mem_append] at hc
    rcases hc with hc | hc
    · exact .inl (List.eq_of_mem_replicate hc)
    · rw [Nat.toString_eq_repr, Nat.toList_repr] at hc
      exact .inr (Nat.isDigit_of_mem_toDigits (by decide) (by decide) hc)
  have hne : (String.leftpad 8 ' ' (toString offset)).toList ≠ [] := by
    rw [toList_leftpad, Nat.toString_eq_repr, Nat.toList_repr]
    exact List.append_ne_nil_of_right_ne_nil _ Nat.toDigits_ne_nil
  obtain ⟨first, later, hfirst⟩ := List.exists_cons_of_ne_nil hne
  obtain ⟨more, hmore⟩ := List.head?_eq_some_iff.mp hstart
  refine Bool.eq_false_iff.mpr fun hbegins ↦ ?_
  rw [begins, line_datagram, hmore, List.isPrefixOf_iff_prefix] at hbegins
  simp only [String.toList_append, hfirst, List.cons_append] at hbegins
  rcases hcell first (hfirst ▸ List.mem_cons_self) with hc | hc <;>
    rw [← (List.cons_prefix_cons.mp hbegins).1] at hc
  · exact hblank hc
  · rw [hdigit] at hc
    cases hc

/-! ### Lines of the log -/

/-- Whether a line is one of the log: it begins with the name of a level. -/
def isLogLine (line : String) : Bool :=
  ["ERROR ", "WARN ", "INFO ", "DEBUG ", "TRACE "].any fun start ↦ begins start line

/-- The line of an event is one of the log. -/
theorem isLogLine_line (event : Event) : isLogLine event.line = true := by
  have hline : ∃ later, event.line = event.level.label ++ " " ++ later := by
    unfold Event.line
    simp only [String.append_assoc, String.append_right_inj, exists_eq']
  obtain ⟨later, hlater⟩ := hline
  have hstart : event.level.label ++ " " ∈ ["ERROR ", "WARN ", "INFO ", "DEBUG ", "TRACE "] := by
    cases event.level <;> decide
  exact List.any_eq_true.mpr ⟨_, hstart, hlater ▸ begins_append_left _ later⟩

/-- The line of a datagram is none of the log. -/
theorem isLogLine_datagram (offset : Nat) (d : Datagram) :
    isLogLine (Entry.datagram offset d).line = false := by
  refine List.any_eq_false.mpr fun start hstart ↦ ?_
  rw [Bool.not_eq_true]
  simp only [List.mem_cons, List.not_mem_nil, or_false] at hstart
  rcases hstart with rfl | rfl | rfl | rfl | rfl <;>
    exact Entry.begins_line_datagram rfl (by decide) (by decide) offset d

/-! ### Lines of a report without a summary -/

/-- Whether an entry is the event of a sequence number out of its place. -/
def Entry.isAnomaly : Entry → Bool
  | .event (.anomaly ..) => true
  | _ => false

/-- The datagram whose line an entry is, with the offset in front of it. -/
def Entry.datagram? : Entry → Option (Nat × Datagram)
  | .datagram offset d => some (offset, d)
  | _ => none

/-- Of the lines of events, those of anomalies begin like an anomaly and no others. -/
theorem begins_anomaly_line (event : Event) :
    begins "DEBUG rekt_inspect: sequence anomaly " event.line = (Entry.event event).isAnomaly := by
  rw [Event.line_eq]
  cases event <;>
    · simp only [String.append_assoc, Entry.isAnomaly]
      rw [begins_append_of_le] <;> decide

namespace Report

variable {entries : List Entry}

/-- Without the lines of the log a report that is not summed up is the lines of its datagrams. -/
theorem filter_not_isLogLine_lines (filter : LogFilter) (h : ∀ text, .summary text ∉ entries) :
    (lines filter entries).filter (fun line ↦ !isLogLine line) =
      (entries.filterMap Entry.datagram?).map fun row ↦ (Entry.datagram row.1 row.2).line := by
  induction entries with
  | nil => rfl
  | cons entry later ih =>
    have hlater := ih fun text hmem ↦ h text (List.mem_cons_of_mem _ hmem)
    cases entry with
    | event e =>
      have hnone : Entry.datagram? (.event e) = none := rfl
      rw [lines_event_cons, List.filter_append, hlater, List.filterMap_cons_none hnone]
      split <;> simp [isLogLine_line]
    | datagram offset d =>
      rw [lines_datagram_cons, List.filter_cons_of_pos (by rw [isLogLine_datagram]; rfl), hlater]
      rfl
    | summary text => exact absurd List.mem_cons_self (h text)

/-- Where the events of debugging are shown, a report that is not summed up has as many lines that
begin like an anomaly as it has anomalies. -/
theorem countP_begins_anomaly_lines {filter : LogFilter}
    (hdebug : ∀ site : Callsite, site.level = .debug → filter.admits site = true)
    (h : ∀ text, .summary text ∉ entries) :
    (lines filter entries).countP (begins "DEBUG rekt_inspect: sequence anomaly ") =
      entries.countP Entry.isAnomaly := by
  rw [lines, List.countP_map, List.countP_filter]
  refine List.countP_congr fun entry hentry ↦ ?_
  rw [Bool.and_eq_true, Function.comp_apply]
  cases entry with
  | event e =>
    rw [Entry.line, begins_anomaly_line]
    refine and_iff_left_of_imp fun hanomaly ↦ ?_
    cases e <;> first | exact hdebug _ rfl | cases hanomaly
  | datagram offset d =>
    rw [Entry.begins_line_datagram rfl (by decide) (by decide)]
    simp [Entry.isAnomaly]
  | summary text => exact absurd hentry (h text)

end Report

end TopicWire
