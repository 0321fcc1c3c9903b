import Mathlib.Logic.ExistsUnique
import TopicWire.Proofs.ReaderCursor

/-!
# How a receiver stands after a round

After each round a receiver stands in one of three ways (`Receiver.Standing`). It has read
everything, or it waits for the rest of a datagram, or it is stopped. While it waits it holds less
than the longest frame, because a string as long as that has all its bytes
(`Datagram.length_le_of_truncation`). A fault that stops it stands at the front of what is
pending, and no chunk lifts it: a round finds it again (`Receiver.StoppedBy.receive`), and so does
every round after that (`Receiver.StoppedBy.receiveAll`). No byte is lost on the way: a round leaves
pending what the datagrams that it read do not occupy (`Receiver.pending_receive`).
-/

set_option autoImplicit false
set_option relaxedAutoImplicit false

namespace TopicWire

/-! ### The longest frame -/

/-- No header is longer than that of data. -/
theorem Kind.headerLength_le {kind : Kind} {layout : Layout} (h : kind.layout? = some layout) :
    layout.headerLength ≤ 15 := by
  cases kind <;> cases h <;> decide

/-- No header declares a body that is longer than a size field can say. -/
theorem Layout.bodyLength_le {layout : Layout} {header : Bytes} {declared : Nat}
    (h : layout.bodyLength header = .ok declared) : declared ≤ 65535 := by
  unfold bodyLength at h
  split at h
  · cases h
    exact Nat.zero_le _
  · obtain ⟨size, -, rfl⟩ := map_eq_ok_iff.mp h
    exact Nat.le_of_lt_succ size.toNat_lt
  · obtain ⟨flag, -, rfl⟩ := map_eq_ok_iff.mp h
    split <;> decide

/-- A byte string that is refused for want of bytes is shorter than the longest frame. -/
theorem Datagram.length_le_of_truncation {buf : Bytes} {reason : ProtocolError}
    (h : decode buf = .error (.refused reason)) (htruncation : reason.isTruncation = true) :
    buf.length ≤ 65549 := by
  rcases cut_of_truncation h htruncation with
    rfl | ⟨kind, layout, -, hlayout, hshort | ⟨declared, -, hbody, hshort⟩⟩
  · exact Nat.zero_le _
  · have hheader := Kind.headerLength_le hlayout
    omega
  · have hheader := Kind.headerLength_le hlayout
    have hdeclared := Layout.bodyLength_le hbody
    omega

namespace Receiver

/-- A round leaves pending what the datagrams that it read do not occupy. -/
theorem pending_receive (receiver : Receiver) (chunk : Bytes) :
    (receiver.receive chunk).2.pending =
      (receiver.pending ++ chunk).drop
        (Datagram.encodedLengths (datagramsOf (receiver.receive chunk).1.items)) :=
  congrArg (receiver.pending ++ chunk).drop (Reader.StandsAfter.drain _).position_eq

/-! ### A fault that stays -/

/-- A fault that no bytes can lift stands at the front of what is pending. -/
structure StoppedBy (fault : Fault) (receiver : Receiver) : Prop where
  pending_ne_nil : receiver.pending ≠ []
  decode_pending : Datagram.decode receiver.pending = .error fault
  final : fault.isTruncation = false

namespace StoppedBy

variable {fault : Fault} {receiver : Receiver}

/-- Whatever comes in, the round finds the fault at the front and nothing else. -/
theorem receive (h : StoppedBy fault receiver) (chunk : Bytes) :
    (receiver.receive chunk).1.items = [.error fault] ∧
      (receiver.receive chunk).1.reader.position = 0 ∧
      StoppedBy fault (receiver.receive chunk).2 := by
  obtain ⟨pending⟩ := receiver
  obtain ⟨hne, hdecode, hfinal⟩ := h
  have hdecided : Decided (Datagram.decode pending) := by
    intro fault' hfault
    cases hdecode.symm.trans hfault
    exact hfinal
  have hlonger : pending ++ chunk ≠ [] := List.append_ne_nil_of_left_ne_nil hne chunk
  have hagain := (Datagram.decode_append hdecided chunk).trans hdecode
  have hreads : Reads (pending ++ chunk) [] (pending ++ chunk) (some fault) :=
    .stopped hlonger hagain
  obtain ⟨hitems, hreceiver⟩ := receive_eq hreads
  refine ⟨hitems, ?_, ?_⟩
  · show (Reader.ofBytes (pending ++ chunk)).drain.2.position = 0
    rw [hreads.drain_eq.2]
    exact Nat.sub_self _
  · rw [hreceiver]
    exact ⟨hlonger, hagain, hfinal⟩

/-- However many chunks come in, every round is such a round. -/
theorem receiveAll (h : StoppedBy fault receiver) (chunks : List Bytes) :
    ∀ round ∈ (receiver.receiveAll chunks).1,
      round.items = [.error fault] ∧ round.reader.position = 0 := by
  induction chunks generalizing receiver with
  | nil =>
    intro round hround
    cases hround
  | cons chunk chunks ih =>
    obtain ⟨hitems, hposition, hnext⟩ := h.receive chunk
    rw [receiveAll_cons]
    intro round hround
    cases hround with
    | head => exact ⟨hitems, hposition⟩
    | tail _ hlater => exact ih hnext round hlater

end StoppedBy

/-! ### The three ways -/

/-- How a receiver stands after a round. -/
inductive Standing where
  /-- Everything was read. -/
  | clear
  /-- The rest of a datagram has not come yet. -/
  | waiting
  /-- Nothing is read any more. -/
  | stopped
  deriving DecidableEq, Repr

namespace Standing

/-- What a round and the receiver after it have to be like. -/
def Holds (round : Round) (receiver : Receiver) : Standing → Prop
  | clear => receiver.pending = [] ∧ ∀ fault, .error fault ∉ round.items
  | waiting =>
    ∃ reason : ProtocolError, round.items.getLast? = some (.error (.refused reason)) ∧
      reason.isTruncation = true ∧ 1 ≤ receiver.pending.length ∧ receiver.pending.length ≤ 65549
  | stopped =>
    ∃ reason : ProtocolError, round.items.getLast? = some (.error (.refused reason)) ∧
      reason.isTruncation = false ∧
      ∀ later, ∀ round' ∈ (receiver.receiveAll later).1,
        round'.items = [.error (.refused reason)] ∧ round'.reader.position = 0

/-- Whether more bytes may lift the fault that a round ends with, if it does. -/
def truncation? : Standing → Option Bool
  | clear => none
  | waiting => some true
  | stopped => some false

variable {round : Round} {receiver : Receiver}

/-- The fault that a round ends with tells how the receiver stands. -/
theorem Holds.truncation?_eq {standing : Standing} (h : standing.Holds round receiver) :
    (endFault? round.items).map Fault.isTruncation = standing.truncation? := by
  unfold endFault?
  cases standing with
  | clear =>
    cases hlast : round.items.getLast? with
    | none => rfl
    | some item =>
      cases item with
      | ok d => rfl
      | error fault => exact absurd (List.mem_of_getLast? hlast) (h.2 fault)
  | waiting =>
    obtain ⟨reason, hlast, htruncation, -⟩ := h
    rw [hlast]
    exact congrArg some htruncation
  | stopped =>
    obtain ⟨reason, hlast, hfinal, -⟩ := h
    rw [hlast]
    exact congrArg some hfinal

/-- A receiver stands in one way only. -/
theorem Holds.unique {standing standing' : Standing} (h : standing.Holds round receiver)
    (h' : standing'.Holds round receiver) : standing = standing' := by
  have htruncation := h.truncation?_eq.symm.trans h'.truncation?_eq
  cases standing <;> cases standing' <;> first | rfl | cases htruncation

end Standing

/-- After a round a receiver stands in one of the three ways. -/
theorem exists_standing (receiver : Receiver) (chunk : Bytes) :
    ∃ standing : Standing,
      standing.Holds (receiver.receive chunk).1 (receiver.receive chunk).2 := by
  obtain ⟨pending⟩ := receiver
  obtain ⟨ds, rest, stop, hreads⟩ := Reads.exists_reads (pending ++ chunk)
  obtain ⟨hitems, hreceiver⟩ := receive_eq hreads
  rw [hreceiver]
  cases stop with
  | none =>
    refine ⟨.clear, hreads.rest_eq_nil, fun fault hfault ↦ ?_⟩
    rw [hitems, itemsOf, Option.map_none, Option.toList_none, List.append_nil] at hfault
    obtain ⟨d, -, hd⟩ := List.mem_map.mp hfault
    cases hd
  | some fault =>
    have hlast : (receive ⟨pending⟩ chunk).1.items.getLast? = some (.error fault) := by
      rw [hitems]
      exact List.getLast?_concat
    obtain ⟨hne, hdecode⟩ := hreads.decode_rest
    rcases Datagram.answered_decode rest with ⟨accepted, hread⟩ | ⟨reason, hrefused⟩
    · cases hread.symm.trans hdecode
    · cases hrefused.symm.trans hdecode
      cases htruncation : reason.isTruncation with
      | true =>
        exact ⟨.waiting, reason, hlast, htruncation, List.length_pos_iff.mpr hne,
          Datagram.length_le_of_truncation hdecode htruncation⟩
      | false =>
        have hstopped : StoppedBy (.refused reason) ⟨rest⟩ := ⟨hne, hdecode, htruncation⟩
        exact ⟨.stopped, reason, hlast, htruncation, hstopped.receiveAll⟩

/-- A receiver has a bounded rest pending or has stopped for good. Whatever chunks it took in, the
next one leaves pending what the datagrams read do not occupy, and exactly one of three holds.
Nothing is pending, and the round had no error. Or the round ended for want of bytes, and the bytes
pending are at least one and at most 65549. Or it ended with an error that more bytes cannot lift,
and then every later round, whatever comes in, has that error at its start and no other item. -/
theorem existsUnique_standing (chunks : List Bytes) (chunk : Bytes) :
    let receiver := (empty.receiveAll chunks).2
    let round := (receiver.receive chunk).1
    let next := (receiver.receive chunk).2
    next.pending =
        (receiver.pending ++ chunk).drop (Datagram.encodedLengths (datagramsOf round.items)) ∧
      ∃! standing : Standing, standing.Holds round next := by
  intro receiver round next
  obtain ⟨standing, h⟩ := exists_standing receiver chunk
  exact ⟨pending_receive receiver chunk, standing, h, fun _ h' ↦ h'.unique h⟩

end Receiver

end TopicWire
