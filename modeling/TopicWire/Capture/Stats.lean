import TopicWire.Capture.Track
import TopicWire.Datagram.Encode
import TopicWire.Text.Column

/-!
# Statistics of a capture

`Stats` counts the datagrams of a capture, by kind and in bytes, tracks each topic on its own, and
keeps the fault at which reading stopped. Counts are 64-bit words and wrap around. The summary lists
kinds by code and topics by id, whatever order they came in.
-/

set_option autoImplicit false
set_option relaxedAutoImplicit false

namespace TopicWire

/-- What has been counted of a capture. The topics are kept ascending by id. -/
structure Stats where
  datagrams : UInt64
  bytesDecoded : UInt64
  perKind : List (Kind × UInt64)
  topics : List (UInt64 × TopicTrack)
  stopped : Option (Nat × Fault)

namespace Stats

/-- The statistics of nothing. -/
def fresh : Stats := ⟨0, 0, [], [], none⟩

/-- Counts one more of a kind. -/
def countKind (kind : Kind) : List (Kind × UInt64) → List (Kind × UInt64)
  | [] => [(kind, 1)]
  | (other, count) :: later =>
    if other = kind then (other, count + 1) :: later else (other, count) :: countKind kind later

theorem countKind_cons_of_eq {kind : Kind} {entry : Kind × UInt64} (h : entry.1 = kind)
    (later : List (Kind × UInt64)) :
    countKind kind (entry :: later) = (entry.1, entry.2 + 1) :: later := if_pos h

theorem countKind_cons_of_ne {kind : Kind} {entry : Kind × UInt64} (h : entry.1 ≠ kind)
    (later : List (Kind × UInt64)) :
    countKind kind (entry :: later) = entry :: countKind kind later := if_neg h

/-- Takes in a sequence number on a topic. -/
def observeTopic (topicId : UInt64) (sequence : UInt32) :
    List (UInt64 × TopicTrack) → Option Sequence.Order × List (UInt64 × TopicTrack)
  | [] =>
    let (order?, track) := TopicTrack.fresh.observe sequence
    (order?, [(topicId, track)])
  | (other, known) :: later =>
    if topicId < other then
      let (order?, track) := TopicTrack.fresh.observe sequence
      (order?, (topicId, track) :: (other, known) :: later)
    else if topicId = other then
      let (order?, track) := known.observe sequence
      (order?, (other, track) :: later)
    else
      let (order?, topics) := observeTopic topicId sequence later
      (order?, (other, known) :: topics)

section ObserveTopic

variable {topicId : UInt64} {topic : UInt64 × TopicTrack} (sequence : UInt32)
  (later : List (UInt64 × TopicTrack))

theorem observeTopic_cons_of_lt (h : topicId < topic.1) :
    observeTopic topicId sequence (topic :: later) =
      ((TopicTrack.fresh.observe sequence).1,
        (topicId, (TopicTrack.fresh.observe sequence).2) :: topic :: later) := if_pos h

theorem observeTopic_cons_of_eq (h : topicId = topic.1) :
    observeTopic topicId sequence (topic :: later) =
      ((topic.2.observe sequence).1, (topic.1, (topic.2.observe sequence).2) :: later) := by
  rw [observeTopic, if_neg (h ▸ UInt64.lt_irrefl topicId), if_pos h]

theorem observeTopic_cons_of_gt (h : topic.1 < topicId) :
    observeTopic topicId sequence (topic :: later) =
      ((observeTopic topicId sequence later).1,
        topic :: (observeTopic topicId sequence later).2) := by
  rw [observeTopic, if_neg (UInt64.lt_asymm h), if_neg (UInt64.ne_of_lt h).symm]

end ObserveTopic

/-- Counts a datagram. Answers the order of its sequence number if it has one and is not the first
of its topic. -/
def record (stats : Stats) (d : Datagram) : Option Sequence.Order × Stats :=
  let counted :=
    { stats with
      datagrams := stats.datagrams + 1
      bytesDecoded := stats.bytesDecoded + UInt64.ofNat d.encodedLength
      perKind := countKind d.kind stats.perKind }
  match d with
  | .data sample =>
    let (order?, topics) := observeTopic sample.topicId sample.sequence stats.topics
    (order?, { counted with topics := topics })
  | _ => (none, counted)

/-- The counts by kind, ascending by code. -/
def byCode (counts : List (Kind × UInt64)) : List (Kind × UInt64) :=
  counts.mergeSort fun a b ↦ a.1.code ≤ b.1.code

/-- The line of a kind in the summary. -/
def kindLine (entry : Kind × UInt64) : String :=
  "   " ++ Text.flushLeft 20 entry.1.label ++ " " ++ toString entry.2.toNat

/-- The line of a topic in the summary. -/
def topicLine (entry : UInt64 × TopicTrack) : String :=
  let (topicId, track) := entry
  "   topic " ++ Text.flushLeft 10 (toString topicId.toNat) ++
    " recv=" ++ toString track.received.toNat ++ " gaps=" ++ toString track.gaps.toNat ++
    " missing=" ++ toString track.missing.toNat ++ " dup=" ++ toString track.duplicates.toNat ++
    " reordered=" ++ toString track.reordered.toNat

/-- The lines on topics, unless there are none. -/
def topicLines (topics : List (UInt64 × TopicTrack)) : List String :=
  if topics.isEmpty then [] else ["", "📡 Topics"] ++ topics.map topicLine

/-- The lines on the fault at which reading stopped, unless it reached the end. -/
def stoppedLines : Option (Nat × Fault) → List String
  | none => []
  | some (offset, fault) =>
    ["", "⚠️  Stopped at offset " ++ toString offset ++ ": " ++ fault.message]

/-- The lines of the summary of a capture of `total` bytes. -/
def summary (stats : Stats) (total : Nat) : List String :=
  ["", "📊 Capture Summary", "   Datagrams:     " ++ toString stats.datagrams.toNat,
    "   Bytes decoded: " ++ toString stats.bytesDecoded.toNat ++ " / " ++ toString total] ++
  (byCode stats.perKind).map kindLine ++ topicLines stats.topics ++ stoppedLines stats.stopped

end Stats

end TopicWire
