import TopicWire.Proofs.DecodeGrammar
import TopicWire.Proofs.ReaderRun

/-!
# A stream is read back as it was written

Nothing stands between two datagrams of a stream, so a reader has only the length of each to find
the next by. Datagrams that are written to one buffer are read back one by one, and nothing is left
(`Reads.flatMap_wire`). Their bytes therefore determine them: two lists with the same bytes are the
same list (`Datagram.eq_of_flatMap_wire_eq`), and no wire form starts with that of another datagram
(`Datagram.eq_of_wire_append_eq`).
-/

set_option autoImplicit false
set_option relaxedAutoImplicit false

namespace TopicWire

namespace Datagram

/-! ### Writing a list of datagrams -/

/-- Appends datagrams to a buffer, one after the other. -/
def encodeAll (growth : Growth) (ds : List Datagram) (b : Buffer) : Buffer :=
  ds.foldl (fun b d ↦ d.encodeInto growth b) b

/-- The number of bytes of datagrams in a row, counted without writing. -/
def encodedLengths (ds : List Datagram) : Nat :=
  ds.foldr (fun d total ↦ d.encodedLength + total) 0

/-- The datagrams are appended in order, and what was there is kept. -/
theorem bytes_encodeAll (growth : Growth) (ds : List Datagram) (b : Buffer) :
    (encodeAll growth ds b).bytes = b.bytes ++ ds.flatMap wire := by
  induction ds generalizing b with
  | nil =>
    show b.bytes = b.bytes ++ []
    rw [List.append_nil]
  | cons d ds ih =>
    show (encodeAll growth ds (d.encodeInto growth b)).bytes = _
    rw [ih, bytes_encodeInto, List.flatMap_cons, List.append_assoc]

theorem length_flatMap_wire (ds : List Datagram) :
    (ds.flatMap wire).length = encodedLengths ds := by
  induction ds with
  | nil => rfl
  | cons d ds ih =>
    rw [List.flatMap_cons, List.length_append, (wireForm_wire d).length_eq, ih]
    rfl

theorem encodedLengths_concat (ds : List Datagram) (d : Datagram) :
    encodedLengths (ds ++ [d]) = encodedLengths ds + d.encodedLength := by
  rw [← length_flatMap_wire, ← length_flatMap_wire, List.flatMap_append, List.length_append,
    List.flatMap_singleton, (wireForm_wire d).length_eq]

/-- A wire form is read off the front of what follows it. -/
theorem decode_wire_append (d : Datagram) (tail : Bytes) :
    decode (d.wire ++ tail) = .ok (d, d.wire.length) :=
  decode_append_of_wireForm (wireForm_wire d) tail

end Datagram

/-! ### Reading it back -/

/-- The reading of wire forms in a row is the datagrams in order, without a fault or a rest. -/
theorem Reads.flatMap_wire (ds : List Datagram) :
    Reads (ds.flatMap Datagram.wire) ds [] none := by
  induction ds with
  | nil => exact .done
  | cons d ds ih =>
    rw [List.flatMap_cons]
    refine .next (d.decode_wire_append _) ?_
    rw [List.drop_left]
    exact ih

/-- A reader that is drained over wire forms in a row yields the datagrams and stands at the end. -/
theorem Reader.drain_flatMap_wire (ds : List Datagram) :
    Reader.items (ds.flatMap Datagram.wire) = ds.map .ok ∧
      (Reader.ofBytes (ds.flatMap Datagram.wire)).drain.2 =
        ⟨(ds.flatMap Datagram.wire).length, [], false⟩ := by
  obtain ⟨hitems, hreader⟩ := (Reads.flatMap_wire ds).drain_eq
  refine ⟨?_, hreader⟩
  rw [Reader.items, hitems]
  exact List.append_nil _

namespace Datagram

/-- Datagrams in a row are determined by their bytes. -/
theorem eq_of_flatMap_wire_eq {ds ds' : List Datagram}
    (h : ds.flatMap wire = ds'.flatMap wire) : ds = ds' := by
  have hitems := (Reader.drain_flatMap_wire ds).1
  rw [h, (Reader.drain_flatMap_wire ds').1] at hitems
  exact (List.map_inj_right fun _ _ hd ↦ Except.ok.inj hd).mp hitems.symm

/-- A wire form that starts with the wire form of a datagram is that wire form. -/
theorem eq_of_wire_append_eq {d d' : Datagram} {tail : Bytes} (h : d.wire ++ tail = d'.wire) :
    d = d' ∧ tail = [] := by
  have hd := d.decode_wire_append tail
  have hd' := d'.decode_wire_append []
  rw [h] at hd
  rw [List.append_nil, hd] at hd'
  cases hd'
  exact ⟨rfl, List.append_right_eq_self.mp h⟩

/-- Datagrams that are written to an empty buffer are read back in order and without a fault, up to
the end of the buffer, which lies where their lengths add up to. So their bytes in a row, as many as
they are, determine them, and no wire form is a proper prefix of another. -/
theorem drain_encodeAll (growth : Growth) (capacity : Nat) (ds : List Datagram) :
    (let buf := (encodeAll growth ds (Buffer.withCapacity capacity)).bytes
     let reader := (Reader.ofBytes buf).drain.2
     Reader.items buf = ds.map .ok ∧ buf.length = encodedLengths ds ∧
       reader.position = encodedLengths ds ∧ reader.remaining = 0 ∧ reader.failed = false) ∧
      (∀ ds' : List Datagram,
        ds.flatMap (fun d ↦ (d.encode growth).bytes) =
          ds'.flatMap (fun d ↦ (d.encode growth).bytes) → ds = ds') ∧
      ∀ d d' : Datagram, (d.encode growth).bytes <+: (d'.encode growth).bytes → d = d' := by
  have hbytes : (encodeAll growth ds (Buffer.withCapacity capacity)).bytes = ds.flatMap wire :=
    bytes_encodeAll growth ds _
  have hencode : (fun d ↦ (encode growth d).bytes) = wire := by
    funext d
    exact bytes_encode growth d
  obtain ⟨hitems, hreader⟩ := Reader.drain_flatMap_wire ds
  refine ⟨?_, ?_, ?_⟩
  · rw [hbytes]
    intro buf reader
    have hend : reader = ⟨buf.length, [], false⟩ := hreader
    rw [hend]
    exact ⟨hitems, length_flatMap_wire ds, length_flatMap_wire ds, rfl, rfl⟩
  · intro ds' h
    rw [hencode] at h
    exact eq_of_flatMap_wire_eq h
  · intro d d' h
    rw [bytes_encode, bytes_encode] at h
    obtain ⟨tail, htail⟩ := h
    exact (eq_of_wire_append_eq htail).1

/-- A probe and a heartbeat in three bytes are read back, and the bytes are those of no other
list. -/
theorem drain_encodeAll_ping_heartbeat :
    Reader.items [0x62, 7, 0x60] = [.ok (.ping ⟨7⟩), .ok .heartbeat] ∧
      ∀ ds : List Datagram,
        [0x62, 7, 0x60] = ds.flatMap (fun d ↦ (d.encode .doubling).bytes) →
          [.ping ⟨7⟩, .heartbeat] = ds := by
  obtain ⟨⟨hitems, -⟩, hunique, -⟩ := drain_encodeAll .doubling 0 [.ping ⟨7⟩, .heartbeat]
  exact ⟨hitems, hunique⟩

end Datagram

end TopicWire
