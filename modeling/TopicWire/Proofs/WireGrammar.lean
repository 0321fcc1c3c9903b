import TopicWire.Datagram.Encode
import TopicWire.Proofs.FieldPlacement
import TopicWire.Proofs.FrameCut
import TopicWire.Proofs.IdSetOrderings

/-!
# The wire grammar

`Spells` is the table of the wire format: which fields follow the byte of a kind, with what width
and in what order, and which body follows them. `WireForm` puts the byte of the kind in front. A
datagram has more than one wire form: a byte that no member of a coded set claims stands for the
unknown member, and the ids of a set may come in any order. All of them have the same length
(`WireForm.length_eq`), each of them is a complete frame of the kind (`Spells.isFrameOf`), and the
form that is written is one of them (`wireForm_wire`).
-/

set_option autoImplicit false
set_option relaxedAutoImplicit false

namespace TopicWire

/-! ### The table -/

/-- The fields after the byte of the kind and the body that spell a datagram. A coded field is any
byte read as its member, a size field is the length of the body, the body of an object request is
the ids of its set in any order, and the flag of an acknowledgement has its top bit set exactly if
a final id follows. -/
inductive Spells : Datagram → List Word → Bytes → Prop where
  | connect : Spells .connect [] []
  | connectAck (ack : ConnectAck) :
      Spells (.connectAck ack) [.u64 ack.clientId, .u16 ack.heartbeatPeriod] []
  | connectNack (nack : ConnectNack) (size : UInt16)
      (hsize : size.toNat = nack.message.bytes.length) :
      Spells (.connectNack nack) [.u16 size] nack.message.bytes
  | shutdown (notice : Shutdown) (code : UInt8) (hcode : EndReason.ofCode code = notice.reason) :
      Spells (.shutdown notice) [.u8 code] []
  | serverStatus : Spells .serverStatus [] []
  | serverStatusAck (ack : ServerStatusAck) :
      Spells (.serverStatusAck ack) [.u64 ack.connectedClients] []
  | heartbeat : Spells .heartbeat [] []
  | heartbeatRequest : Spells .heartbeatRequest [] []
  | ping (probe : Ping) : Spells (.ping probe) [.u8 probe.pingId] []
  | pong (answer : Pong) : Spells (.pong answer) [.u8 answer.pingId] []
  | topicRequest (request : TopicRequest) (code : UInt8)
      (hcode : TopicAction.ofCode code = request.action) :
      Spells (.topicRequest request) [.u8 code, .u64 request.topicId] []
  | topicRequestAck (ack : TopicRequestAck) (code : UInt8)
      (hcode : TopicResponse.ofCode code = ack.response) :
      Spells (.topicRequestAck ack) [.u8 code, .u64 ack.topicId] []
  | topicRequestNack (nack : TopicRequestNack) (code : UInt8) (size : UInt16)
      (hcode : TopicResponse.ofCode code = nack.response)
      (hsize : size.toNat = nack.message.bytes.length) :
      Spells (.topicRequestNack nack) [.u8 code, .u16 size] nack.message.bytes
  | objectRequest (request : ObjectRequest) (code : UInt8) (size : UInt16) (ids : List UInt64)
      (hcode : ObjectAction.ofCode code = request.action)
      (hids : ids.Perm request.topicIds.ids)
      (hsize : size.toNat = (ids.flatMap Bytes.ofUInt64).length) :
      Spells (.objectRequest request) [.u8 code, .u16 size, .u64 request.objectId]
        (ids.flatMap Bytes.ofUInt64)
  | objectRequestAck (ack : ObjectRequestAck) (hfinal : ack.finalObjectId = none) :
      Spells (.objectRequestAck ack) [.u8 ack.flag, .u64 ack.objectId] []
  | objectRequestAckFinal (ack : ObjectRequestAck) (finalId : UInt64)
      (hfinal : ack.finalObjectId = some finalId) :
      Spells (.objectRequestAck ack)
        [.u8 (ack.flag ||| Flag.finalIdPresent), .u64 ack.objectId] (Bytes.ofUInt64 finalId)
  | objectRequestNack (nack : ObjectRequestNack) (size : UInt16)
      (hsize : size.toNat = nack.message.bytes.length) :
      Spells (.objectRequestNack nack) [.u8 nack.flag, .u16 size, .u64 nack.objectId]
        nack.message.bytes
  | data (sample : Data) (size : UInt16) (hsize : size.toNat = sample.payload.bytes.length) :
      Spells (.data sample) [.u16 size, .u32 sample.sequence, .u64 sample.topicId]
        sample.payload.bytes

/-- A byte string is a wire form of a datagram: the byte of its kind, its fields without padding,
and its body. -/
def WireForm (d : Datagram) (w : Bytes) : Prop :=
  ∃ fields body, Spells d fields body ∧ w = Word.bytesOf (.u8 d.kind.code :: fields) ++ body

/-! ### The bit that announces a final id -/

namespace Flag

/-- A property of all flags is checked on the bits. -/
theorem forall_of_bits {P : Flag → Prop} (h : ∀ bits : BitVec 8, P ⟨bits⟩) (flag : Flag) :
    P flag :=
  h flag.toBitVec

theorem has_or_finalIdPresent :
    ∀ flag : Flag, has (flag ||| finalIdPresent) finalIdPresent = true :=
  forall_of_bits (by decide +kernel)

theorem has_eq_false_of_clear {flag : Flag} (h : flag &&& finalIdPresent = 0) :
    has flag finalIdPresent = false := by
  rw [has, h]
  rfl

end Flag

/-! ### Every spelling is a complete frame -/

namespace Word

/-- A run of words is as long as its words together. -/
theorem length_bytesOf (words : List Word) :
    (bytesOf words).length = words.foldr (fun word total ↦ word.width + total) 0 := by
  induction words with
  | nil => rfl
  | cons word words ih =>
    rw [bytesOf, List.flatMap_cons, List.length_append, length_bytes, List.foldr_cons, ← ih]
    rfl

/-- Each word of a run is read where it was laid. -/
theorem allReadAt_bytesOf (words : List Word) : AllReadAt (bytesOf words) 0 words :=
  eq_bytesOf_iff.mp rfl

end Word

namespace Spells

variable {d : Datagram} {fields : List Word} {body : Bytes}

/-- Whatever spells a datagram is a complete frame of its kind. -/
theorem isFrameOf (h : Spells d fields body) :
    Frame.IsFrameOf d.kind ⟨Word.bytesOf (.u8 d.kind.code :: fields), body⟩ := by
  have hread := Word.allReadAt_bytesOf (.u8 d.kind.code :: fields)
  have hlength := Word.length_bytesOf (.u8 d.kind.code :: fields)
  refine ⟨rfl, ?_⟩
  cases h with
  | connect | connectAck _ | shutdown _ _ _ | serverStatus | serverStatusAck _ | heartbeat
  | heartbeatRequest | ping _ | pong _ | topicRequest _ _ _ | topicRequestAck _ _ _ =>
    exact ⟨_, rfl, Frame.fits_fixed_iff.mpr ⟨hlength, rfl⟩⟩
  | connectNack _ _ hsize =>
    obtain ⟨-, hat, -⟩ := hread
    exact ⟨_, rfl, Frame.fits_sized_iff.mpr ⟨hlength, _, hat, hsize⟩⟩
  | topicRequestNack _ _ _ _ hsize =>
    obtain ⟨-, -, hat, -⟩ := hread
    exact ⟨_, rfl, Frame.fits_sized_iff.mpr ⟨hlength, _, hat, hsize⟩⟩
  | objectRequest _ _ _ _ _ _ hsize =>
    obtain ⟨-, -, hat, -⟩ := hread
    exact ⟨_, rfl, Frame.fits_sized_iff.mpr ⟨hlength, _, hat, hsize⟩⟩
  | objectRequestAck ack _ =>
    obtain ⟨-, hat, -⟩ := hread
    refine ⟨_, rfl, Frame.fits_flagged_iff.mpr ⟨hlength, _, hat, ?_⟩⟩
    rw [Flag.has_eq_false_of_clear ack.flag_clear]
    rfl
  | objectRequestAckFinal ack finalId _ =>
    obtain ⟨-, hat, -⟩ := hread
    refine ⟨_, rfl, Frame.fits_flagged_iff.mpr ⟨hlength, _, hat, ?_⟩⟩
    rw [Flag.has_or_finalIdPresent, Bytes.length_ofUInt64]
    rfl
  | objectRequestNack _ _ hsize =>
    obtain ⟨-, -, hat, -⟩ := hread
    exact ⟨_, rfl, Frame.fits_sized_iff.mpr ⟨hlength, _, hat, hsize⟩⟩
  | data _ _ hsize =>
    obtain ⟨-, hat, -⟩ := hread
    exact ⟨_, rfl, Frame.fits_sized_iff.mpr ⟨hlength, _, hat, hsize⟩⟩

/-- The body that spells a datagram has the length that is counted without writing. -/
theorem length_body (h : Spells d fields body) : body.length = d.bodyLength := by
  cases h with
  | objectRequest request _ _ ids _ hids _ =>
    rw [IdSet.length_flatMap_ofUInt64, hids.length_eq]
    rfl
  | objectRequestAck ack hfinal =>
    simp [Datagram.bodyLength, hfinal]
  | objectRequestAckFinal ack finalId hfinal =>
    simp [Datagram.bodyLength, hfinal]
  | _ => rfl

end Spells

/-! ### Length and written form -/

/-- All wire forms of a datagram are of the length that is counted without writing. -/
theorem WireForm.length_eq {d : Datagram} {w : Bytes} (h : WireForm d w) :
    w.length = d.encodedLength := by
  obtain ⟨fields, body, hspells, rfl⟩ := h
  obtain ⟨-, layout, hlayout, hfits⟩ := hspells.isFrameOf
  have hheader := hfits.length_header
  rw [List.length_append, hheader, hspells.length_body, Datagram.encodedLength, hlayout]
  rfl

/-- The size field of a request is the number of bytes of its ids. -/
theorem ObjectRequest.toNat_size (request : ObjectRequest) :
    request.size.toNat = request.length := by
  have hlength : request.length ≤ 65535 := request.length_le
  rw [size, UInt16.toNat_ofNat']
  omega

namespace Datagram

/-- The wire form starts with the byte of the kind, and the fields follow. -/
theorem wire_eq (d : Datagram) : d.wire = d.kind.code :: Write.bytesOf d.fieldWrites := by
  unfold wire writes
  split <;> rfl

/-- Steps that end by appending a body write the body last. -/
theorem bytesOf_append_body (steps : List Write) (body : Bytes) :
    Write.bytesOf (steps ++ [.append body]) = Write.bytesOf steps ++ body := by
  rw [Write.bytesOf, List.flatMap_append]
  exact congrArg (Write.bytesOf steps ++ ·) (List.append_nil body)

/-- The steps that write an object request append its fields and then its ids in order. -/
theorem bytesOf_fieldWrites_objectRequest (request : ObjectRequest) :
    Write.bytesOf (objectRequest request).fieldWrites =
      Word.bytesOf [.u8 request.action.code, .u16 request.size, .u64 request.objectId] ++
        request.topicIds.ids.flatMap Bytes.ofUInt64 := by
  have hids := IdSet.bytesOf_writes request.topicIds
  rw [IdSet.encode] at hids
  rw [fieldWrites, ← hids, Write.bytesOf, List.flatMap_append]
  rfl

/-- The fields that are written spell the datagram, with the bytes that its members claim and the
ids in ascending order. -/
theorem spells_fieldWrites (d : Datagram) :
    ∃ fields body, Spells d fields body ∧
      Write.bytesOf d.fieldWrites = Word.bytesOf fields ++ body := by
  cases d with
  | connect => exact ⟨_, _, .connect, rfl⟩
  | connectAck ack => exact ⟨_, _, .connectAck ack, (List.append_nil _).symm⟩
  | connectNack nack =>
    exact ⟨_, _, .connectNack nack _ nack.message.toNat_size, bytesOf_append_body [.u16 _] _⟩
  | shutdown notice =>
    exact ⟨_, _, .shutdown notice _ (EndReason.ofCode_code _), (List.append_nil _).symm⟩
  | serverStatus => exact ⟨_, _, .serverStatus, rfl⟩
  | serverStatusAck ack => exact ⟨_, _, .serverStatusAck ack, (List.append_nil _).symm⟩
  | heartbeat => exact ⟨_, _, .heartbeat, rfl⟩
  | heartbeatRequest => exact ⟨_, _, .heartbeatRequest, rfl⟩
  | ping probe => exact ⟨_, _, .ping probe, (List.append_nil _).symm⟩
  | pong answer => exact ⟨_, _, .pong answer, (List.append_nil _).symm⟩
  | topicRequest request =>
    exact ⟨_, _, .topicRequest request _ (TopicAction.ofCode_code _), (List.append_nil _).symm⟩
  | topicRequestAck ack =>
    exact ⟨_, _, .topicRequestAck ack _ (TopicResponse.ofCode_code _), (List.append_nil _).symm⟩
  | topicRequestNack nack =>
    exact ⟨_, _,
      .topicRequestNack nack _ _ (TopicResponse.ofCode_code _) nack.message.toNat_size,
      bytesOf_append_body [.u8 _, .u16 _] _⟩
  | objectRequest request =>
    refine ⟨_, _, .objectRequest request _ request.size _ (ObjectAction.ofCode_code _) (.refl _) ?_,
      bytesOf_fieldWrites_objectRequest request⟩
    rw [request.toNat_size, IdSet.length_flatMap_ofUInt64]
    rfl
  | objectRequestAck ack =>
    cases hfinal : ack.finalObjectId with
    | none =>
      refine ⟨_, _, .objectRequestAck ack hfinal, ?_⟩
      rw [fieldWrites, ObjectRequestAck.wireFlag, hfinal]
      exact (List.append_nil _).symm
    | some finalId =>
      refine ⟨_, _, .objectRequestAckFinal ack finalId hfinal, ?_⟩
      rw [fieldWrites, ObjectRequestAck.wireFlag, hfinal]
      exact bytesOf_append_body [.u8 _, .u64 _] _
  | objectRequestNack nack =>
    exact ⟨_, _, .objectRequestNack nack _ nack.message.toNat_size,
      bytesOf_append_body [.u8 _, .u16 _, .u64 _] _⟩
  | data sample =>
    exact ⟨_, _, .data sample _ sample.payload.toNat_size,
      bytesOf_append_body [.u16 _, .u32 _, .u64 _] _⟩

/-- What is written is a wire form. -/
theorem wireForm_wire (d : Datagram) : WireForm d d.wire := by
  obtain ⟨fields, body, hspells, hbytes⟩ := d.spells_fieldWrites
  refine ⟨fields, body, hspells, ?_⟩
  rw [wire_eq, hbytes]
  rfl

end Datagram

end TopicWire
