import TopicWire.Capture.Log
import TopicWire.Capture.Stats
import TopicWire.Datagram.Describe
import TopicWire.Reader

/-!
# Inspecting a capture

`Report.inspect` reads a capture to the end or to the first fault and tells what it saw, in order:
the events on the way, a line for each datagram unless it is to be quiet, and the statistics. A
report is a list of entries, and a log filter only leaves entries out.
-/

set_option autoImplicit false
set_option relaxedAutoImplicit false

namespace TopicWire

/-- One line of the output of a run. -/
inductive Entry where
  | event (event : Event)
  | datagram (offset : Nat) (d : Datagram)
  | summary (line : String)
  deriving DecidableEq

namespace Entry

/-- The text of an entry. -/
def line : Entry → String
  | event e => e.line
  | datagram offset d =>
    Text.flushRight 8 (toString offset) ++ "  " ++ Text.flushLeft 20 d.kind.label ++ " " ++
      d.describe
  | summary text => text

/-- Whether an entry is shown: only events can be left out. -/
def shown (filter : LogFilter) : Entry → Bool
  | event e => filter.admits e.callsite
  | _ => true

end Entry

namespace Report

/-- The lines of a report that a filter shows. -/
def lines (filter : LogFilter) (entries : List Entry) : List String :=
  (entries.filter (Entry.shown filter)).map Entry.line

theorem lines_event_cons (filter : LogFilter) (e : Event) (entries : List Entry) :
    lines filter (.event e :: entries) =
      (if filter.admits e.callsite then [e.line] else []) ++ lines filter entries := by
  have hshown : Entry.shown filter (.event e) = filter.admits e.callsite := rfl
  rw [lines, List.filter_cons, hshown]
  split <;> rfl

theorem lines_datagram_cons (filter : LogFilter) (offset : Nat) (d : Datagram)
    (entries : List Entry) :
    lines filter (.datagram offset d :: entries) =
      (Entry.datagram offset d).line :: lines filter entries := rfl

/-- The event of a sequence number that is not in its place. -/
def anomaly (offset : Nat) : Option Sequence.Order → List Entry
  | some (.gap missing) => [.event (.anomaly offset (.gap missing))]
  | some .reordered => [.event (.anomaly offset .reordered)]
  | _ => []

/-- Takes in one attempt to read a datagram. -/
def observe (quiet : Bool) (stats : Stats) (attempt : Attempt) : List Entry × Stats :=
  match attempt.outcome with
  | .ok (d, consumed) =>
    let (order?, stats) := stats.record d
    (.event (.decoded d.kind consumed) ::
      (if quiet then [] else [.datagram attempt.offset d]) ++ anomaly attempt.offset order?, stats)
  | .error fault =>
    ((Kind.peek? attempt.input).toList.map fun kind ↦
        .event (.rejected kind attempt.input.length fault),
      { stats with stopped := some (attempt.offset, fault) })

/-- Takes in attempts in order. -/
def observeAll (quiet : Bool) : Stats → List Attempt → List Entry × Stats
  | stats, [] => ([], stats)
  | stats, attempt :: attempts =>
    let (entries, stats) := observe quiet stats attempt
    let (later, stats) := observeAll quiet stats attempts
    (entries ++ later, stats)

/-- Reads a capture. Answers what was seen on the way and the statistics. -/
def inspect (quiet : Bool) (capture : Bytes) : List Entry × Stats :=
  observeAll quiet .fresh (Reader.ofBytes capture).drain.1

/-- The report on a capture: what was seen on the way, the summary, and a warning if the end was not
reached. -/
def ofCapture (quiet : Bool) (capture : Bytes) : List Entry :=
  let (entries, stats) := inspect quiet capture
  entries ++ (stats.summary capture.length).map .summary ++
    (stats.stopped.map fun (offset, fault) ↦ .event (.incomplete offset fault)).toList

end Report

end TopicWire
