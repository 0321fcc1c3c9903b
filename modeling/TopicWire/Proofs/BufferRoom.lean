import TopicWire.Proofs.WireGrammar

/-!
# Encoding makes room once

An encoder asks for room in two places: for the whole form before its first byte, and again for the
ids of a set. `Write.room` is the most that its steps ask for at any one time. A buffer that has
this room does not grow at any step (`Buffer.capacity_writeAll_of_room`). The room that a datagram
asks for is the length of its form, with or without the first step (`Datagram.room_writes`,
`Datagram.room_cons_fieldWrites`): what is asked for later is never more than what is still to come.
So a buffer with room for exactly the form is filled to the brim and never grows, and any other
grows before the first byte or not at all (`Datagram.encode_makes_room_once`).
-/

set_option autoImplicit false
set_option relaxedAutoImplicit false

namespace TopicWire

/-! ### Room for some steps -/

/-- The room that steps ask for beyond what the buffer holds: to carry them out one by one, a buffer
has to have so many bytes free at the start. -/
def Write.room : List Write → Nat
  | [] => 0
  | reserve extra :: steps => max extra (room steps)
  | append bs :: steps => bs.length + room steps

namespace Buffer

variable {growth : Growth} {b : Buffer}

/-- Where there is room enough, making room changes nothing. -/
theorem reserve_of_le {extra : Nat} (h : b.length + extra ≤ b.capacity) :
    b.reserve growth extra = b := by
  rw [reserve, if_pos h]

/-- After making room there is room enough. -/
theorem length_add_le_capacity_reserve (growth : Growth) (b : Buffer) (extra : Nat) :
    b.length + extra ≤ (b.reserve growth extra).capacity := by
  unfold reserve
  split
  · next h => exact h
  · exact growth.needed_le _ _

@[simp] theorem length_reserve (growth : Growth) (b : Buffer) (extra : Nat) :
    (b.reserve growth extra).length = b.length := by
  rw [← length_bytes, bytes_reserve, length_bytes]

@[simp] theorem length_append (growth : Growth) (b : Buffer) (bs : Bytes) :
    (b.append growth bs).length = b.length + bs.length := by
  rw [← length_bytes, bytes_append, List.length_append, length_bytes]

theorem capacity_append (growth : Growth) (b : Buffer) (bs : Bytes) :
    (b.append growth bs).capacity = (b.reserve growth bs.length).capacity := rfl

theorem writeAll_cons (growth : Growth) (b : Buffer) (step : Write) (steps : List Write) :
    b.writeAll growth (step :: steps) = (b.write growth step).writeAll growth steps := rfl

/-- After any step the content fits in the capacity. -/
theorem length_write_le_capacity (growth : Growth) (b : Buffer) (step : Write) :
    (b.write growth step).length ≤ (b.write growth step).capacity := by
  cases step with
  | reserve extra =>
    rw [write, length_reserve]
    exact Nat.le_of_add_right_le (length_add_le_capacity_reserve growth b extra)
  | append bs =>
    rw [write, length_append, capacity_append]
    exact length_add_le_capacity_reserve growth b bs.length

/-- After some steps the content fits in the capacity, if it did before. -/
theorem length_writeAll_le_capacity (h : b.length ≤ b.capacity) (steps : List Write) :
    (b.writeAll growth steps).length ≤ (b.writeAll growth steps).capacity := by
  induction steps generalizing b with
  | nil => exact h
  | cons step steps ih => exact ih (length_write_le_capacity growth b step)

/-- A step for which there is room leaves the capacity alone, and leaves the room for the steps
after it. -/
theorem write_of_room (growth : Growth) {step : Write} {steps : List Write}
    (h : b.length + Write.room (step :: steps) ≤ b.capacity) :
    (b.write growth step).capacity = b.capacity ∧
      (b.write growth step).length + Write.room steps ≤ b.capacity := by
  cases step with
  | reserve extra =>
    rw [Write.room] at h
    have hextra : b.length + extra ≤ b.capacity := by omega
    rw [write, reserve_of_le hextra]
    exact ⟨rfl, by omega⟩
  | append bs =>
    rw [Write.room] at h
    have hlength : b.length + bs.length ≤ b.capacity := by omega
    rw [write, length_append, capacity_append, reserve_of_le hlength]
    exact ⟨rfl, by omega⟩

/-- A buffer with the room that the steps ask for does not grow at any of them. -/
theorem capacity_writeAll_of_room {steps done : List Write} (hdone : done <+: steps)
    (h : b.length + Write.room steps ≤ b.capacity) :
    (b.writeAll growth done).capacity = b.capacity := by
  induction done generalizing b steps with
  | nil => rfl
  | cons step done ih =>
    obtain ⟨later, rfl, hlater⟩ := List.cons_prefix_iff.mp hdone
    obtain ⟨hcapacity, hroom⟩ := write_of_room growth h
    rw [writeAll_cons, ih hlater (hcapacity.symm ▸ hroom), hcapacity]

end Buffer

/-! ### The room that a datagram asks for -/

namespace Write

@[simp] theorem room_nil : room [] = 0 := rfl

@[simp] theorem bytesOf_nil : bytesOf [] = [] := rfl

@[simp] theorem room_append_cons (bs : Bytes) (steps : List Write) :
    room (append bs :: steps) = bs.length + room steps := rfl

@[simp] theorem length_bytesOf_append_cons (bs : Bytes) (steps : List Write) :
    (bytesOf (append bs :: steps)).length = bs.length + (bytesOf steps).length :=
  List.length_append

/-- Steps that only append ask for the room of what they append. -/
theorem room_map_append (runs : List Bytes) :
    room (runs.map append) = (bytesOf (runs.map append)).length := by
  induction runs with
  | nil => rfl
  | cons bs runs ih =>
    rw [List.map_cons, room_append_cons, length_bytesOf_append_cons, ih]

end Write

/-- A set asks for the room of its ids, and makes all of it first. -/
theorem IdSet.room_writes (s : IdSet) : Write.room s.writes = (Write.bytesOf s.writes).length := by
  have hids : s.ids.map Write.u64 = (s.ids.map Bytes.ofUInt64).map Write.append :=
    List.map_map.symm
  have hroom := Write.room_map_append (s.ids.map Bytes.ofUInt64)
  have hlength : (Write.bytesOf s.writes).length = encodedLength s.size := by
    rw [bytesOf_writes, length_encode]
  rw [← hids] at hroom
  show max (encodedLength s.size) (Write.room (s.ids.map Write.u64)) = _
  rw [hroom, ← hlength]
  exact Nat.max_self _

namespace Datagram

/-- The fields and the body ask for the room of what they append. -/
theorem room_fieldWrites (d : Datagram) :
    Write.room d.fieldWrites = (Write.bytesOf d.fieldWrites).length := by
  cases d with
  | objectRequest request =>
    have hids := IdSet.room_writes request.topicIds
    simp [fieldWrites, Write.u8, Write.u16, Write.u64, hids]
  | objectRequestAck ack =>
    cases hfinal : ack.finalObjectId with
    | none => simp [fieldWrites, hfinal, Write.u8, Write.u64]
    | some finalId => simp [fieldWrites, hfinal, Write.u8, Write.u64]
  | _ => simp [fieldWrites, Write.u8, Write.u16, Write.u32, Write.u64]

/-- From its first byte on a datagram asks for as much room as its form takes. -/
theorem room_cons_fieldWrites (d : Datagram) :
    Write.room (.u8 d.kind.code :: d.fieldWrites) = d.encodedLength := by
  have hlength := (wireForm_wire d).length_eq
  rw [wire_eq, List.length_cons] at hlength
  rw [Write.u8, Write.room_append_cons, room_fieldWrites, ← hlength]
  exact Nat.add_comm ..

/-- The steps that write a datagram ask for as much room as its form takes. -/
theorem room_writes (d : Datagram) : Write.room d.writes = d.encodedLength := by
  unfold writes
  split
  · show max d.encodedLength (Write.room (.u8 d.kind.code :: d.fieldWrites)) = _
    rw [room_cons_fieldWrites, Nat.max_self]
  · exact room_cons_fieldWrites d

/-- The kinds whose forms are at most two bytes long. They are written without making room first. -/
def briefKinds : List Kind :=
  [.connect, .serverStatus, .heartbeat, .heartbeatRequest, .shutdown, .ping, .pong]

theorem reservesFirst_iff (d : Datagram) : d.reservesFirst = true ↔ d.kind ∉ briefKinds := by
  rw [reservesFirst, decide_eq_true_iff, encodedLength]
  cases d with
  | connect | serverStatus | heartbeat | heartbeatRequest | shutdown _ | ping _ | pong _ =>
    simp [kind, Kind.layout?, bodyLength, briefKinds]
  | _ =>
    exact iff_of_true (Nat.lt_add_right _ (by simp [kind, Kind.layout?]))
      (by simp [kind, briefKinds])

/-- Where room is made first, it is made for the whole form, and the rest asks for no more. -/
theorem writes_of_reservesFirst {d : Datagram} (h : d.reservesFirst = true) :
    d.writes = .reserve d.encodedLength :: .u8 d.kind.code :: d.fieldWrites := by
  rw [writes, if_pos h]
  rfl

/-- Encoding is an exact append and makes room once. The form that is appended depends on the
datagram alone, has the length that is counted without writing, and leaves what was there untouched.

However a buffer grows where it has to, its content fits in its capacity after every step. A buffer
of its own has the capacity of the form from the start to the end, so no step makes it grow, and at
the end it is full. All kinds but the briefest make room first; whatever the buffer held and however
much room it had, no step after this one makes it grow. -/
theorem encode_makes_room_once (growth : Growth) (d : Datagram) (b : Buffer) :
    ((d.encodeInto growth b).bytes = b.bytes ++ d.wire ∧
        (∀ other : Growth, (d.encode other).bytes = d.wire) ∧
        d.wire.length = d.encodedLength) ∧
      (∀ done, done <+: d.writes → done ≠ [] →
        (b.writeAll growth done).length ≤ (b.writeAll growth done).capacity) ∧
      ((∀ done, done <+: d.writes →
          ((Buffer.withCapacity d.encodedLength).writeAll growth done).capacity =
            d.encodedLength) ∧
        (d.encode growth).length = d.encodedLength ∧
        (d.encode growth).capacity = d.encodedLength) ∧
      (d.kind ∉ briefKinds → ∃ later, d.writes = .reserve d.encodedLength :: later ∧
        ∀ done, done <+: later →
          ((b.reserve growth d.encodedLength).writeAll growth done).capacity =
            (b.reserve growth d.encodedLength).capacity) := by
  have hlength := (wireForm_wire d).length_eq
  have hown : ∀ done, done <+: d.writes →
      ((Buffer.withCapacity d.encodedLength).writeAll growth done).capacity =
        d.encodedLength := by
    intro done hdone
    refine Buffer.capacity_writeAll_of_room hdone ?_
    rw [room_writes]
    exact Nat.le_of_eq (Nat.zero_add _)
  refine ⟨⟨bytes_encodeInto growth d b, fun other ↦ bytes_encode other d, hlength⟩, ?_,
    ⟨hown, ?_, hown _ List.prefix_rfl⟩, ?_⟩
  · intro done _ hne
    cases done with
    | nil => exact absurd rfl hne
    | cons step done =>
      exact Buffer.length_writeAll_le_capacity (Buffer.length_write_le_capacity growth b step) done
  · rw [← Buffer.length_bytes, bytes_encode, hlength]
  · intro hkind
    refine ⟨_, writes_of_reservesFirst (d.reservesFirst_iff.mpr hkind), fun done hdone ↦ ?_⟩
    refine Buffer.capacity_writeAll_of_room hdone ?_
    rw [room_cons_fieldWrites, Buffer.length_reserve]
    exact Buffer.length_add_le_capacity_reserve growth b d.encodedLength

end Datagram

end TopicWire
