import TopicWire.Error
import TopicWire.Sequence

/-!
# Log events

What a run says about itself beside its report. Each event has a level, a source and particulars
with names, which are its `Callsite`. By these a `LogFilter` tells which events are shown.
-/

set_option autoImplicit false
set_option relaxedAutoImplicit false

namespace TopicWire

/-- The weight of an event, gravest first. -/
inductive Level where
  | error
  | warn
  | info
  | debug
  | trace
  deriving DecidableEq, Repr

namespace Level

/-- The place of a level, counted from the gravest. -/
def rank : Level → Nat
  | error => 0
  | warn => 1
  | info => 2
  | debug => 3
  | trace => 4

/-- The name of a level in a log line. -/
def label : Level → String
  | error => "ERROR"
  | warn => "WARN"
  | info => "INFO"
  | debug => "DEBUG"
  | trace => "TRACE"

end Level

/-- What is known of an event before it happens: how grave it is, where it comes from, and the names
of its particulars. -/
structure Callsite where
  level : Level
  source : String
  fields : List String
  deriving DecidableEq, Repr

/-- A filter tells of each callsite whether its events are shown. -/
structure LogFilter where
  admits : Callsite → Bool

namespace LogFilter

/-- The filter that shows the events up to a level from everywhere, or none. -/
def upTo (finest : Option Level) : LogFilter where
  admits site := finest.any fun level ↦ site.level.rank ≤ level.rank

end LogFilter

/-- Something that happened in a run. -/
inductive Event where
  /-- A capture is about to be opened. -/
  | opening (path : String) (hex : Bool)
  /-- A datagram was read. -/
  | decoded (kind : Kind) (consumed : Nat)
  /-- Bytes were refused. -/
  | rejected (kind : Kind) (available : Nat) (fault : Fault)
  /-- A sequence number was ahead of the next one or behind the last one. -/
  | anomaly (offset : Nat) (order : Sequence.Order)
  /-- Reading stopped before the end of a capture. -/
  | incomplete (offset : Nat) (fault : Fault)
  /-- A sample capture was written. -/
  | sampleWritten (path : String) (bytes : Nat)
  deriving DecidableEq

namespace Event

/-- The level of an event. -/
def level : Event → Level
  | opening .. | sampleWritten .. => .info
  | decoded .. => .trace
  | rejected .. | anomaly .. => .debug
  | incomplete .. => .warn

/-- The source of an event: the codec for what happens to single datagrams, else the inspector. -/
def source : Event → String
  | decoded .. | rejected .. => "rekt_protocol::protocol::datagram"
  | _ => "rekt_inspect"

/-- What happened. -/
def message : Event → String
  | opening .. => "opening capture"
  | decoded .. => "decoded datagram"
  | rejected .. => "datagram rejected"
  | anomaly .. => "sequence anomaly"
  | incomplete .. => "capture not fully decoded"
  | sampleWritten .. => "sample capture written"

/-- The particulars of an event. -/
def fields : Event → List (String × String)
  | opening path hex => [("path", path), ("hex", if hex then "true" else "false")]
  | decoded kind consumed => [("kind", kind.label), ("consumed", toString consumed)]
  | rejected kind available fault =>
    [("kind", kind.label), ("available", toString available), ("error", fault.message)]
  | anomaly offset order => [("offset", toString offset), ("order", order.structured)]
  | incomplete offset fault => [("offset", toString offset), ("error", fault.message)]
  | sampleWritten path bytes => [("path", path), ("bytes", toString bytes)]

/-- Where an event comes from, whatever it says. -/
def callsite (event : Event) : Callsite := ⟨event.level, event.source, event.fields.map Prod.fst⟩

/-- The log line of an event. -/
def line (event : Event) : String :=
  event.level.label ++ " " ++ event.source ++ ": " ++ event.message ++
    String.join (event.fields.map fun (field, value) ↦ " " ++ field ++ "=" ++ value)

end Event

end TopicWire
