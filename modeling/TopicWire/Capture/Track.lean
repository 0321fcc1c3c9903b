import TopicWire.Sequence

/-!
# Tracking a topic

A `TopicTrack` follows the sequence numbers of one topic. The first number is taken as it comes;
each later one is classified against the last one accepted, and only a number in order or ahead is
accepted in turn. Counts are 64-bit words and wrap around.
-/

set_option autoImplicit false
set_option relaxedAutoImplicit false

namespace TopicWire

/-- What is known of a topic: the last number accepted and how the numbers came in. -/
structure TopicTrack where
  lastSeen : Option UInt32
  received : UInt64
  gaps : UInt64
  missing : UInt64
  duplicates : UInt64
  reordered : UInt64
  deriving DecidableEq, Repr

namespace TopicTrack

/-- A topic on which nothing has been received. -/
def fresh : TopicTrack := ⟨none, 0, 0, 0, 0, 0⟩

/-- Counts a number of the given order. -/
def tally (track : TopicTrack) (sequence : UInt32) : Sequence.Order → TopicTrack
  | .inOrder => { track with lastSeen := some sequence }
  | .gap missing =>
    { track with
      lastSeen := some sequence
      gaps := track.gaps + 1
      missing := track.missing + missing.toUInt64 }
  | .duplicate => { track with duplicates := track.duplicates + 1 }
  | .reordered => { track with reordered := track.reordered + 1 }

/-- Takes in a number. Answers its order, unless it is the first. -/
def observe (track : TopicTrack) (sequence : UInt32) : Option Sequence.Order × TopicTrack :=
  let counted := { track with received := track.received + 1 }
  match track.lastSeen with
  | none => (none, { counted with lastSeen := some sequence })
  | some last =>
    let order := Sequence.classify last sequence
    (some order, counted.tally sequence order)

end TopicTrack

end TopicWire
