import TopicWire.Proofs.CaptureAccount
import TopicWire.Proofs.HexDump

/-!
# One report, filtered

A dump has one report, whatever it is asked to show of it (`Command.dumpReport`). To be quiet leaves
out the lines of the datagrams (`Report.ofCapture_eq_filter`) and a log filter leaves out events
(`Entry.shown`), so runs that differ in these settings show parts of the same entries, in the same
order, and end alike (`Command.dump_eq`). At the name of a level the events left out are those of
the finer levels (`Entry.shown_eq_ofLevels`).

The entries in front of the summary are laid out datagram by datagram
(`Report.ofCapture_eq_blocks`): the event that it was read, its line, and an event if its number is
out of its place. The event of a fault comes after all of them. `Report.map_line_ofCapture` is what
this reads like.
-/

set_option autoImplicit false
set_option relaxedAutoImplicit false

namespace TopicWire

open Sequence

/-! ### Settings -/

namespace Entry

/-- Whether an entry is the line of a datagram. -/
def isDatagram : Entry → Bool
  | datagram .. => true
  | _ => false

/-- Whether an entry is an event, and so a line of the log. -/
def isEvent : Entry → Bool
  | event _ => true
  | _ => false

/-- Whether an entry is left in a report that may have to be quiet. -/
def kept (quiet : Bool) (entry : Entry) : Bool := !(quiet && entry.isDatagram)

/-- Whether an entry is left in a report of which only events of some levels are shown. -/
def ofLevels (levels : List Level) : Entry → Bool
  | event e => e.level ∈ levels
  | _ => true

theorem shown_eq_ofLevels {filter : LogFilter} {levels : List Level}
    (h : ∀ site, filter.admits site = true ↔ site.level ∈ levels) (entry : Entry) :
    entry.shown filter = entry.ofLevels levels := by
  cases entry with
  | event e => exact Bool.eq_iff_iff.mpr ((h e.callsite).trans decide_eq_true_iff.symm)
  | datagram offset d => rfl
  | summary line => rfl

/-- What is left in of some levels is left in of more. -/
theorem ofLevels_of_subset {levels more : List Level} (h : levels ⊆ more) {entry : Entry}
    (hentry : entry.ofLevels levels = true) : entry.ofLevels more = true := by
  cases entry with
  | event e => exact decide_eq_true (h (of_decide_eq_true hentry))
  | datagram offset d => rfl
  | summary line => rfl

end Entry

/-! ### Quiet reports -/

namespace Report

/-- What one attempt adds to a quiet report is what it adds to any, without lines of datagrams. The
statistics do not depend on it. -/
theorem observe_eq_filter (quiet : Bool) (stats : Stats) (attempt : Attempt) :
    observe quiet stats attempt =
      ((observe false stats attempt).1.filter (Entry.kept quiet),
        (observe false stats attempt).2) := by
  have hanomaly : ∀ order?, (anomaly attempt.offset order?).filter (Entry.kept quiet) =
      anomaly attempt.offset order? := by
    intro order?
    rcases order? with _ | order
    · rfl
    · cases order <;> cases quiet <;> rfl
  unfold observe
  cases attempt.outcome with
  | ok accepted =>
    obtain ⟨d, consumed⟩ := accepted
    cases quiet <;> simp [Entry.kept, Entry.isDatagram, hanomaly]
  | error fault => cases Kind.peek? attempt.input <;> cases quiet <;> rfl

theorem observeAll_eq_filter (quiet : Bool) (stats : Stats) (attempts : List Attempt) :
    observeAll quiet stats attempts =
      ((observeAll false stats attempts).1.filter (Entry.kept quiet),
        (observeAll false stats attempts).2) := by
  induction attempts generalizing stats with
  | nil => rfl
  | cons attempt attempts ih =>
    rw [observeAll_cons, observeAll_cons, observe_eq_filter quiet, ih, List.filter_append]

/-- A quiet report is the report without the lines of the datagrams. -/
theorem ofCapture_eq_filter (quiet : Bool) (capture : Bytes) :
    ofCapture quiet capture = (ofCapture false capture).filter (Entry.kept quiet) := by
  have hsummary : ∀ lines : List String, (lines.map Entry.summary).filter (Entry.kept quiet) =
      lines.map Entry.summary := by
    intro lines
    refine List.filter_eq_self.mpr (List.forall_mem_map.mpr fun line _ ↦ ?_)
    cases quiet <;> rfl
  have hwarning : ∀ stopped : Option (Nat × Fault),
      ((stopped.map fun stop ↦ Entry.event (.incomplete stop.1 stop.2)).toList).filter
        (Entry.kept quiet) =
      (stopped.map fun stop ↦ Entry.event (.incomplete stop.1 stop.2)).toList := by
    intro stopped
    cases stopped <;> cases quiet <;> rfl
  unfold ofCapture inspect
  rw [observeAll_eq_filter quiet]
  simp only [List.filter_append, hsummary, hwarning]

/-! ### The layout of a report -/

/-- What a report says of a datagram: that it was read, its line, and an event if its sequence
number is out of its place. -/
def block (offset : Nat) (d : Datagram) (answer : Option Order) : List Entry :=
  .event (.decoded d.kind d.encodedLength) :: .datagram offset d :: anomaly offset answer

/-- What a report says of the bytes at which reading stopped, unless it reached the end. -/
def rejection (capture : Bytes) (stopped : Option (Nat × Fault)) : Option Entry :=
  stopped.bind fun (offset, fault) ↦ (Kind.peek? (capture.drop offset)).map fun kind ↦
    .event (.rejected kind (capture.drop offset).length fault)

theorem observe_ok (stats : Stats) (position : Nat) (buf : Bytes) (d : Datagram) :
    observe false stats ⟨position, buf, .ok (d, d.encodedLength)⟩ =
      (block position d (stats.record d).1, (stats.record d).2) := rfl

theorem observe_error (stats : Stats) (position : Nat) (buf : Bytes) (fault : Fault) :
    (observe false stats ⟨position, buf, .error fault⟩).1 =
      (rejection buf (some (0, fault))).toList := by
  unfold observe rejection
  cases hkind : Kind.peek? buf <;> simp [hkind]

/-- The place of a rejection is counted from the first byte that is left. -/
theorem rejection_drop (buf : Bytes) (n offset : Nat) (stop : Option Fault) :
    rejection (buf.drop n) (stop.map fun fault ↦ (offset, fault)) =
      rejection buf (stop.map fun fault ↦ (n + offset, fault)) := by
  cases stop with
  | none => rfl
  | some fault => simp [rejection]

/-- The attempts of a reading are reported in blocks, one for each datagram, and then the fault. -/
theorem observeAll_eq_blocks (stats : Stats) (position : Nat) (buf : Bytes) (ds : List Datagram)
    (stop : Option Fault) :
    (observeAll false stats (attemptsOf position buf ds stop)).1 =
      ((ds.zip (stats.recordAll ds).1).mapIdx fun i entry ↦
          block (position + Datagram.encodedLengths (ds.take i)) entry.1 entry.2).flatten ++
        (rejection buf (stop.map fun fault ↦ (Datagram.encodedLengths ds, fault))).toList := by
  induction ds generalizing stats position buf with
  | nil =>
    cases stop with
    | none => rfl
    | some fault =>
      show (observe false stats ⟨position, buf, .error fault⟩).1 ++ [] = _
      rw [observe_error, List.append_nil]
      rfl
  | cons d ds ih =>
    have hlengths : Datagram.encodedLengths (d :: ds) =
        d.encodedLength + Datagram.encodedLengths ds := rfl
    rw [attemptsOf, observeAll_cons, observe_ok, ih, rejection_drop, Stats.recordAll_cons, hlengths]
    simp [Datagram.encodedLengths, List.mapIdx_cons, Nat.add_assoc]

/-- The layout of a report: a block for each datagram, with the number of bytes before it, the fault
if there was one, the summary, and a warning of the fault. -/
theorem ofCapture_eq_blocks (capture : Bytes) :
    let read := datagramsOf (Reader.items capture)
    let stats := (inspect false capture).2
    ofCapture false capture =
      ((read.zip (Stats.fresh.recordAll read).1).mapIdx fun i entry ↦
          block (Datagram.encodedLengths (read.take i)) entry.1 entry.2).flatten ++
        (rejection capture stats.stopped).toList ++
        (stats.summary capture.length).map .summary ++
        (stats.stopped.map fun (offset, fault) ↦ .event (.incomplete offset fault)).toList := by
  intro read stats
  obtain ⟨ds, rest, stop, hreads⟩ := Reads.exists_reads capture
  have hread : read = ds := by
    show datagramsOf ((Reader.ofBytes capture).drain.1.map Attempt.item) = ds
    rw [hreads.drain_eq.1, datagramsOf_itemsOf]
  have hentries := observeAll_eq_blocks .fresh 0 capture ds stop
  rw [← inspect_of_reads hreads, ← stopped_inspect hreads false] at hentries
  simp only [Nat.zero_add] at hentries
  have hreport : ofCapture false capture =
      (inspect false capture).1 ++ (stats.summary capture.length).map .summary ++
        (stats.stopped.map fun (offset, fault) ↦ .event (.incomplete offset fault)).toList := rfl
  rw [hread, hreport, hentries]

/-! ### What a report reads like -/

/-- The lines of a block. -/
def blockLines (offset : Nat) (d : Datagram) (answer : Option Order) : List String :=
  ["TRACE rekt_protocol::protocol::datagram: decoded datagram kind=" ++ d.kind.label ++
      " consumed=" ++ toString d.encodedLength,
    String.leftpad 8 ' ' (toString offset) ++ "  " ++ String.rightpad 20 ' ' d.kind.label ++ " " ++
      d.describe] ++
  (answer.filter Order.isAnomaly).toList.map fun order ↦
    "DEBUG rekt_inspect: sequence anomaly offset=" ++ toString offset ++ " order=" ++
      order.structured

/-- The line of a rejection, unless the end was reached. -/
def rejectionLines (capture : Bytes) : Option (Nat × Fault) → List String
  | none => []
  | some (offset, fault) => (Kind.peek? (capture.drop offset)).toList.map fun kind ↦
    "DEBUG rekt_protocol::protocol::datagram: datagram rejected kind=" ++ kind.label ++
      " available=" ++ toString (capture.drop offset).length ++ " error=" ++ fault.message

/-- The line of the warning at the end, unless the end was reached. -/
def warningLines : Option (Nat × Fault) → List String
  | none => []
  | some (offset, fault) =>
    ["WARN rekt_inspect: capture not fully decoded offset=" ++ toString offset ++ " error=" ++
      fault.message]

theorem map_line_block (offset : Nat) (d : Datagram) (answer : Option Order) :
    (block offset d answer).map Entry.line = blockLines offset d answer := by
  have hanomaly : (anomaly offset answer).map Entry.line =
      (answer.filter Order.isAnomaly).toList.map fun order ↦
        "DEBUG rekt_inspect: sequence anomaly offset=" ++ toString offset ++ " order=" ++
          order.structured := by
    cases answer with
    | none => rfl
    | some order =>
      cases order with
      | gap missing => exact congrArg ([·]) (Event.line_eq (.anomaly offset (.gap missing)))
      | reordered => exact congrArg ([·]) (Event.line_eq (.anomaly offset .reordered))
      | inOrder | duplicate => rfl
  rw [block, List.map_cons, List.map_cons, hanomaly, Entry.line_datagram, Entry.line, Event.line_eq]
  rfl

theorem map_line_rejection (capture : Bytes) (stopped : Option (Nat × Fault)) :
    (rejection capture stopped).toList.map Entry.line = rejectionLines capture stopped := by
  cases stopped with
  | none => rfl
  | some stop =>
    obtain ⟨offset, fault⟩ := stop
    simp only [rejectionLines, rejection, Option.bind_some]
    cases Kind.peek? (capture.drop offset) with
    | none => rfl
    | some kind => exact congrArg ([·]) (Event.line_eq (.rejected kind _ fault))

theorem map_line_warning (stopped : Option (Nat × Fault)) :
    (stopped.map fun (offset, fault) ↦ Entry.event (.incomplete offset fault)).toList.map
      Entry.line = warningLines stopped := by
  cases stopped with
  | none => rfl
  | some stop => exact congrArg ([·]) (Event.line_eq (.incomplete stop.1 stop.2))

/-- The lines of a whole report. -/
theorem map_line_ofCapture (capture : Bytes) :
    let read := datagramsOf (Reader.items capture)
    let stats := (inspect false capture).2
    (ofCapture false capture).map Entry.line =
      ((read.zip (Stats.fresh.recordAll read).1).mapIdx fun i entry ↦
          blockLines (Datagram.encodedLengths (read.take i)) entry.1 entry.2).flatten ++
        rejectionLines capture stats.stopped ++ stats.summary capture.length ++
        warningLines stats.stopped := by
  intro read stats
  have hsummary : ∀ lines : List String, (lines.map Entry.summary).map Entry.line = lines := by
    intro lines
    rw [List.map_map]
    exact List.map_id lines
  rw [ofCapture_eq_blocks]
  simp only [List.map_append, List.map_flatten, map_mapIdx, map_line_block, map_line_rejection,
    hsummary, map_line_warning]
  rfl

end Report

namespace Command

/-! ### Dumps that differ in their settings -/

/-- All that there is to report of the capture in a file. -/
def dumpReport (file : String) (hex : Bool) (place : Directory) : List Entry :=
  .event (.opening file hex) ::
    match openCapture place file hex with
    | .error _ => []
    | .ok capture => Report.ofCapture false capture

/-- What a call prints, entry by entry. -/
def Invocation.printed (libraries : Libraries) (invocation : Invocation) (place : Directory) :
    List Entry :=
  match libraries.logFilter invocation.logLevel with
  | .error _ => []
  | .ok filter => (invocation.run place).report.filter (Entry.shown filter)

section Settings

variable {libraries : Libraries} {filter : LogFilter} {file level otherLevel : String}
  {hex quiet : Bool} {place : Directory}

/-- Of its settings a dump heeds only whether it is to be quiet, and that only in its report. -/
theorem dump_eq :
    dump ⟨.dump, file, hex, quiet, level⟩ place =
      ⟨(dumpReport file hex place).filter (Entry.kept quiet),
        match openCapture place file hex with
        | .error failure => some failure
        | .ok _ => none,
        place⟩ := by
  have hopening : Entry.kept quiet (.event (.opening file hex)) = true := by
    cases quiet <;> rfl
  unfold dump dumpReport
  rw [List.filter_cons_of_pos hopening]
  cases openCapture place file hex with
  | error failure => rfl
  | ok capture =>
    exact congrArg (fun entries ↦ Run.mk (.event (.opening file hex) :: entries) none place)
      (Report.ofCapture_eq_filter quiet capture)

theorem printed_eq (h : libraries.logFilter level = .ok filter) :
    Invocation.printed libraries ⟨.dump, file, hex, quiet, level⟩ place =
      (dumpReport file hex place).filter fun entry ↦ entry.shown filter && entry.kept quiet := by
  unfold Invocation.printed
  simp only [h]
  show (dump _ place).report.filter _ = _
  rw [dump_eq, List.filter_filter]

/-- What a dump puts out are the lines of what it prints. -/
theorem executeWith_dump_output {words : List String}
    (hwords : Request.ofArguments words = .ok (.invocation ⟨.dump, file, hex, quiet, level⟩))
    (h : libraries.logFilter level = .ok filter) :
    (executeWith libraries words place).output =
      (Invocation.printed libraries ⟨.dump, file, hex, quiet, level⟩ place).map Entry.line := by
  unfold Invocation.printed
  rw [executeWith_dump hwords h]
  simp only [h]
  rfl

/-- At the name of a level a dump prints the events of its levels. -/
theorem printed_eq_of_shownAt (hlevels : libraries.ReadsLevels) {levels : List Level}
    (h : (level, levels) ∈ Level.shownAt) :
    Invocation.printed libraries ⟨.dump, file, hex, quiet, level⟩ place =
      (dumpReport file hex place).filter fun entry ↦
        entry.ofLevels levels && entry.kept quiet := by
  obtain ⟨filter, hfilter, hsites⟩ := hlevels.exists_logFilter level
  simp only [printed_eq hfilter, Entry.shown_eq_ofLevels (hsites levels h)]

/-- What a quiet dump prints is what one that is not quiet does, without the lines of the
datagrams. -/
theorem printed_quiet (h : libraries.logFilter level = libraries.logFilter otherLevel) :
    Invocation.printed libraries ⟨.dump, file, hex, true, level⟩ place =
      (Invocation.printed libraries ⟨.dump, file, hex, false, otherLevel⟩ place).filter fun entry ↦
        !entry.isDatagram := by
  cases hfilter : libraries.logFilter level with
  | error report => simp only [Invocation.printed, hfilter, ← h, List.filter_nil]
  | ok filter =>
    rw [printed_eq hfilter, printed_eq (h.symm.trans hfilter), List.filter_filter]
    refine List.filter_congr fun entry _ ↦ ?_
    simp [Entry.kept, Bool.and_comm]

/-- What a dump prints of fewer levels is what it prints of more, without the events of the others.
-/
theorem printed_of_subset (hlevels : libraries.ReadsLevels) {levels more : List Level}
    (h : (level, levels) ∈ Level.shownAt) (hother : (otherLevel, more) ∈ Level.shownAt)
    (hsubset : levels ⊆ more) :
    Invocation.printed libraries ⟨.dump, file, hex, quiet, level⟩ place =
      (Invocation.printed libraries ⟨.dump, file, hex, quiet, otherLevel⟩ place).filter
        (Entry.ofLevels levels) := by
  rw [printed_eq_of_shownAt hlevels h, printed_eq_of_shownAt hlevels hother, List.filter_filter]
  refine List.filter_congr fun entry _ ↦ ?_
  cases hentry : entry.ofLevels levels with
  | false => rfl
  | true => rw [Entry.ofLevels_of_subset hsubset hentry, Bool.true_and, Bool.true_and]

/-- To show fewer levels leaves out nothing but events. -/
theorem filter_not_isEvent_filter_ofLevels (levels : List Level) (entries : List Entry) :
    (entries.filter (Entry.ofLevels levels)).filter (fun entry ↦ !entry.isEvent) =
      entries.filter fun entry ↦ !entry.isEvent := by
  rw [List.filter_filter]
  refine List.filter_congr fun entry _ ↦ ?_
  cases entry <;> rfl

/-- A dump at the finest level that is not quiet prints the whole report. -/
theorem printed_trace (hlevels : libraries.ReadsLevels) :
    Invocation.printed libraries ⟨.dump, file, hex, false, "trace"⟩ place =
      dumpReport file hex place := by
  have htrace : ("trace", [.error, .warn, .info, .debug, .trace]) ∈ Level.shownAt := by decide
  rw [printed_eq_of_shownAt hlevels htrace]
  refine List.filter_eq_self.mpr fun entry _ ↦ ?_
  rw [Bool.and_eq_true]
  refine ⟨?_, rfl⟩
  cases entry with
  | event e =>
    refine decide_eq_true ?_
    cases e.level <;> decide
  | datagram offset d => rfl
  | summary line => rfl

end Settings

/-- The settings of a dump only filter what it shows. Two dumps of a file that are told the same of
it, in whatever other words, end with the same code, say the same of a failure and leave the
directory as it is, and what both print are parts of one report. What the quiet one of two at one
level prints is what the other does without the lines of the datagrams. At each name of a level just
the events of the levels listed for it are shown, so what the less verbose of two equally quiet ones
prints is what the other does without the events of the levels that it does not admit; all that is
no event is the same, and the order too. A dump at the finest level that is not quiet prints the
opening, a block for each datagram, in which the event that it was read comes before its line, then
the rejection if there is a fault, and only then the summary, with a warning of the fault after it.

Assumes: the names of log levels are read. -/
theorem dumps_filter_report {libraries : Libraries} (hlevels : libraries.ReadsLevels)
    {words others : List String} {file level otherLevel : String} {hex quiet otherQuiet : Bool}
    {place : Directory}
    (hwords : Request.ofArguments words = .ok (.invocation ⟨.dump, file, hex, quiet, level⟩))
    (hothers : Request.ofArguments others =
      .ok (.invocation ⟨.dump, file, hex, otherQuiet, otherLevel⟩)) :
    let run := executeWith libraries words place
    let other := executeWith libraries others place
    let printed := Invocation.printed libraries ⟨.dump, file, hex, quiet, level⟩ place
    let otherPrinted :=
      Invocation.printed libraries ⟨.dump, file, hex, otherQuiet, otherLevel⟩ place
    let names : List (String × List Level) :=
      [("off", []), ("error", [.error]), ("warn", [.error, .warn]),
        ("info", [.error, .warn, .info]), ("debug", [.error, .warn, .info, .debug]),
        ("trace", [.error, .warn, .info, .debug, .trace])]
    (run.exitCode = other.exitCode ∧ run.diagnostics = other.diagnostics ∧
        run.directory = place ∧ other.directory = place) ∧
      (run.output = printed.map Entry.line ∧ other.output = otherPrinted.map Entry.line) ∧
      (quiet = true → otherQuiet = false →
        libraries.logFilter level = libraries.logFilter otherLevel →
        printed = otherPrinted.filter fun entry ↦ !entry.isDatagram) ∧
      (∀ levels, (level, levels) ∈ names →
        printed = (dumpReport file hex place).filter (fun entry ↦
          entry.ofLevels levels && entry.kept quiet) ∧
        ∀ more, (otherLevel, more) ∈ names → levels ⊆ more → quiet = otherQuiet →
          printed = otherPrinted.filter (Entry.ofLevels levels) ∧
            printed.filter (fun entry ↦ !entry.isEvent) =
              otherPrinted.filter fun entry ↦ !entry.isEvent) ∧
      ∀ capture, openCapture place file hex = .ok capture → quiet = false → level = "trace" →
        let read := datagramsOf (Reader.items capture)
        let stats := (Report.inspect false capture).2
        run.output =
          ("INFO rekt_inspect: opening capture path=" ++ file ++ " hex=" ++
              if hex then "true" else "false") ::
            (((read.zip (Stats.fresh.recordAll read).1).mapIdx fun i entry ↦
                Report.blockLines (Datagram.encodedLengths (read.take i)) entry.1
                  entry.2).flatten ++
              Report.rejectionLines capture stats.stopped ++ stats.summary capture.length ++
              Report.warningLines stats.stopped) := by
  intro run other printed otherPrinted names
  obtain ⟨filter, hfilter, -⟩ := hlevels.exists_logFilter level
  obtain ⟨otherFilter, hotherFilter, -⟩ := hlevels.exists_logFilter otherLevel
  have hrun : run = (dump ⟨.dump, file, hex, quiet, level⟩ place).outcome filter :=
    executeWith_dump hwords hfilter
  have hother : other =
      (dump ⟨.dump, file, hex, otherQuiet, otherLevel⟩ place).outcome otherFilter :=
    executeWith_dump hothers hotherFilter
  have houtput : run.output = printed.map Entry.line := executeWith_dump_output hwords hfilter
  have hotherOutput : other.output = otherPrinted.map Entry.line :=
    executeWith_dump_output hothers hotherFilter
  refine ⟨?_, ⟨houtput, hotherOutput⟩, ?_, fun levels hnamed ↦ ⟨?_, ?_⟩, ?_⟩
  · rw [hrun, hother, dump_eq, dump_eq]
    exact ⟨rfl, rfl, rfl, rfl⟩
  · rintro rfl rfl hsame
    exact printed_quiet hsame
  · exact printed_eq_of_shownAt hlevels hnamed
  · rintro more hotherNamed hsubset rfl
    have hfiltered : printed = otherPrinted.filter (Entry.ofLevels levels) :=
      printed_of_subset hlevels hnamed hotherNamed hsubset
    exact ⟨hfiltered, hfiltered ▸ filter_not_isEvent_filter_ofLevels _ _⟩
  · rintro capture hopen rfl rfl read stats
    have hreport : printed = dumpReport file hex place := printed_trace hlevels
    rw [houtput, hreport, dumpReport, hopen, List.map_cons, Entry.line, Event.line_eq]
    exact congrArg (_ :: ·) (Report.map_line_ofCapture capture)

/-- A ping and then a byte of no kind, dumped at every level, quietly, and with warnings only. -/
theorem dumps_filter_report_ping :
    let place : Directory := { files := [("c", [0x62, 7, 0x13])] }
    let full := Invocation.printed .basic ⟨.dump, "c", false, false, "trace"⟩ place
    let fault : Fault := .refused (.unsupportedType .unknown)
    Libraries.basic.ReadsLevels ∧
      Request.ofArguments ["-l", "trace", "dump", "c"] =
        .ok (.invocation ⟨.dump, "c", false, false, "trace"⟩) ∧
      Request.ofArguments ["dump", "-ql", "trace", "c"] =
        .ok (.invocation ⟨.dump, "c", false, true, "trace"⟩) ∧
      Request.ofArguments ["dump", "--log-level=warn", "c"] =
        .ok (.invocation ⟨.dump, "c", false, false, "warn"⟩) ∧
      Invocation.printed .basic ⟨.dump, "c", false, true, "trace"⟩ place =
        full.filter (fun entry ↦ !entry.isDatagram) ∧
      Invocation.printed .basic ⟨.dump, "c", false, false, "warn"⟩ place =
        full.filter (Entry.ofLevels [.error, .warn]) ∧
      (executeWith .basic ["-l", "trace", "dump", "c"] place).output =
        ["INFO rekt_inspect: opening capture path=c hex=false",
          "TRACE rekt_protocol::protocol::datagram: decoded datagram kind=Ping consumed=2",
          "       0  Ping                 id=7",
          "DEBUG rekt_protocol::protocol::datagram: datagram rejected kind=Unknown available=1" ++
            " error=" ++ fault.message] ++
          (Report.inspect false [0x62, 7, 0x13]).2.summary 3 ++
          ["WARN rekt_inspect: capture not fully decoded offset=2 error=" ++ fault.message] := by
  have hfull : Request.ofArguments ["-l", "trace", "dump", "c"] =
      .ok (.invocation ⟨.dump, "c", false, false, "trace"⟩) := by decide
  have hquiet : Request.ofArguments ["dump", "-ql", "trace", "c"] =
      .ok (.invocation ⟨.dump, "c", false, true, "trace"⟩) := by decide
  have hwarn : Request.ofArguments ["dump", "--log-level=warn", "c"] =
      .ok (.invocation ⟨.dump, "c", false, false, "warn"⟩) := by decide
  have hlevels := Libraries.readsLevels_basic
  intro place full fault
  refine ⟨hlevels, hfull, hquiet, hwarn, ?_, ?_, ?_⟩
  · exact (dumps_filter_report hlevels hquiet hfull).2.2.1 rfl rfl rfl
  · exact (((dumps_filter_report hlevels hwarn hfull).2.2.2.1 [.error, .warn] (by decide)).2
      [.error, .warn, .info, .debug, .trace] (by decide) (by decide) rfl).1
  · exact (dumps_filter_report hlevels hfull hfull).2.2.2.2 [0x62, 7, 0x13] rfl rfl rfl

end Command

end TopicWire
