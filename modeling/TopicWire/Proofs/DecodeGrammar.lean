import TopicWire.Proofs.DecodeFinality
import TopicWire.Proofs.WireGrammar

/-!
# The decoder accepts exactly the wire grammar

Fields and body that spell a datagram are read as that datagram (`Datagram.ofFrame_of_spells`).
Conversely every complete frame of a kind spells a datagram of it, object requests apart
(`Frame.IsFrameOf.exists_spells`), and an object request is read only from the ids of a set. So the
decoder accepts a byte string exactly if it starts with a wire form
(`Datagram.decode_eq_ok_iff_wireForm`), and what is written is read back whatever follows
(`Datagram.decode_encode_append`).
-/

set_option autoImplicit false
set_option relaxedAutoImplicit false

namespace TopicWire

/-! ### What the parts of a frame are read as -/

/-- Bytes are made a payload exactly if they are those of the payload. -/
theorem Payload.ofBytes_eq_ok_iff {bs : Bytes} {p : Payload} :
    ofBytes bs = .ok p ↔ p.bytes = bs := by
  rw [ofBytes]
  split
  · next h =>
    rw [Except.ok.injEq]
    constructor
    · rintro rfl
      rfl
    · rintro rfl
      rfl
  · next h =>
    constructor
    · intro hp
      cases hp
    · rintro rfl
      exact absurd p.length_le h

/-- A size field declares no more than a payload may hold. -/
theorem Payload.length_le_of_size {size : UInt16} {bs : Bytes} (h : size.toNat = bs.length) :
    bs.length ≤ maxPayloadLength := by
  have hsize := size.toNat_lt
  rw [maxPayloadLength]
  omega

/-- A request is built from exactly its own parts. -/
theorem ObjectRequest.ofTopics_eq_ok_iff {action : ObjectAction} {objectId : UInt64}
    {topicIds : IdSet} {request : ObjectRequest} :
    ofTopics action objectId topicIds = .ok request ↔
      request.action = action ∧ request.objectId = objectId ∧ request.topicIds = topicIds := by
  rw [ofTopics]
  split
  · next h =>
    rw [Except.ok.injEq]
    constructor
    · rintro rfl
      exact ⟨rfl, rfl, rfl⟩
    · rintro ⟨rfl, rfl, rfl⟩
      rfl
  · next h =>
    constructor
    · intro hrequest
      cases hrequest
    · rintro ⟨rfl, rfl, rfl⟩
      exact absurd request.length_le h

/-- An acknowledgement is made of a flag whose top bit does not count. -/
theorem ObjectRequestAck.ofFlag_eq_iff {flag : Flag} {objectId : UInt64} {finalId : Option UInt64}
    {ack : ObjectRequestAck} :
    ofFlag flag objectId finalId = ack ↔
      flag &&& ~~~Flag.finalIdPresent = ack.flag ∧ objectId = ack.objectId ∧
        finalId = ack.finalObjectId := by
  cases ack
  simp only [ofFlag, mk.injEq]

namespace Flag

theorem clear_eq_self :
    ∀ flag : Flag, flag &&& finalIdPresent = 0 → flag &&& ~~~finalIdPresent = flag :=
  forall_of_bits (by decide +kernel)

theorem clear_or_eq_self :
    ∀ flag : Flag, flag &&& finalIdPresent = 0 →
      (flag ||| finalIdPresent) &&& ~~~finalIdPresent = flag :=
  forall_of_bits (by decide +kernel)

theorem clear_eq_self_of_not_has :
    ∀ flag : Flag, has flag finalIdPresent = false → flag &&& ~~~finalIdPresent = flag :=
  forall_of_bits (by decide +kernel)

theorem or_clear_eq_self_of_has :
    ∀ flag : Flag, has flag finalIdPresent = true →
      (flag &&& ~~~finalIdPresent) ||| finalIdPresent = flag :=
  forall_of_bits (by decide +kernel)

end Flag

namespace Frame

variable {frame : Frame} {position : Nat}

theorem u8At_eq_ok_iff {value : UInt8} :
    frame.u8At position = .ok value ↔ Field.u8At frame.header position = .ok value :=
  mapError_eq_ok_iff

theorem u16At_eq_ok_iff {value : UInt16} :
    frame.u16At position = .ok value ↔ Field.u16At frame.header position = .ok value :=
  mapError_eq_ok_iff

theorem u32At_eq_ok_iff {value : UInt32} :
    frame.u32At position = .ok value ↔ Field.u32At frame.header position = .ok value :=
  mapError_eq_ok_iff

theorem u64At_eq_ok_iff {value : UInt64} :
    frame.u64At position = .ok value ↔ Field.u64At frame.header position = .ok value :=
  mapError_eq_ok_iff

theorem payload_eq_ok_iff {p : Payload} : frame.payload = .ok p ↔ p.bytes = frame.body := by
  rw [payload, mapError_eq_ok_iff, Payload.ofBytes_eq_ok_iff]

theorem bodyId_eq_ok_iff {value : UInt64} :
    frame.bodyId = .ok value ↔ Field.u64At frame.body 0 = .ok value :=
  mapError_eq_ok_iff

end Frame

namespace Datagram

/-! ### What spells a datagram is read as it -/

/-- Fields and body that spell a datagram are read as that datagram. -/
theorem ofFrame_of_spells {d : Datagram} {fields : List Word} {header body : Bytes}
    (h : Spells d fields body) (hread : Word.AllReadAt header 0 (.u8 d.kind.code :: fields)) :
    ofFrame d.kind ⟨header, body⟩ = .ok d := by
  cases h with
  | connect | serverStatus | heartbeat | heartbeatRequest => rfl
  | connectAck ack =>
    obtain ⟨-, hclient, hperiod, -⟩ := hread
    simp only [kind, ofFrame, bind_eq_ok_iff, Frame.u64At_eq_ok_iff, Frame.u16At_eq_ok_iff]
    exact ⟨_, hclient, _, hperiod, rfl⟩
  | connectNack nack size hsize =>
    simp only [kind, ofFrame, bind_eq_ok_iff, Frame.payload_eq_ok_iff]
    exact ⟨nack.message, rfl, rfl⟩
  | shutdown notice code hcode =>
    obtain ⟨-, hat, -⟩ := hread
    simp only [kind, ofFrame, bind_eq_ok_iff, Frame.u8At_eq_ok_iff]
    exact ⟨code, hat, by rw [hcode]; rfl⟩
  | serverStatusAck ack =>
    obtain ⟨-, hclients, -⟩ := hread
    simp only [kind, ofFrame, bind_eq_ok_iff, Frame.u64At_eq_ok_iff]
    exact ⟨_, hclients, rfl⟩
  | ping probe =>
    obtain ⟨-, hat, -⟩ := hread
    simp only [kind, ofFrame, bind_eq_ok_iff, Frame.u8At_eq_ok_iff]
    exact ⟨_, hat, rfl⟩
  | pong answer =>
    obtain ⟨-, hat, -⟩ := hread
    simp only [kind, ofFrame, bind_eq_ok_iff, Frame.u8At_eq_ok_iff]
    exact ⟨_, hat, rfl⟩
  | topicRequest request code hcode =>
    obtain ⟨-, hat, htopic, -⟩ := hread
    simp only [kind, ofFrame, bind_eq_ok_iff, Frame.u8At_eq_ok_iff, Frame.u64At_eq_ok_iff]
    exact ⟨code, hat, _, htopic, by rw [hcode]; rfl⟩
  | topicRequestAck ack code hcode =>
    obtain ⟨-, hat, htopic, -⟩ := hread
    simp only [kind, ofFrame, bind_eq_ok_iff, Frame.u8At_eq_ok_iff, Frame.u64At_eq_ok_iff]
    exact ⟨code, hat, _, htopic, by rw [hcode]; rfl⟩
  | topicRequestNack nack code size hcode hsize =>
    obtain ⟨-, hat, -⟩ := hread
    simp only [kind, ofFrame, bind_eq_ok_iff, Frame.u8At_eq_ok_iff, Frame.payload_eq_ok_iff]
    exact ⟨code, hat, nack.message, rfl, by rw [hcode]; rfl⟩
  | objectRequest request code size ids hcode hids hsize =>
    obtain ⟨-, hat, -, hobject, -⟩ := hread
    simp only [kind, ofFrame, bind_eq_ok_iff, Frame.u8At_eq_ok_iff, Frame.u64At_eq_ok_iff,
      mapError_eq_ok_iff, IdSet.countForSize_eq_ok_iff, IdSet.decode_eq_ok_iff,
      ObjectRequest.ofTopics_eq_ok_iff]
    exact ⟨code, hat, _, hobject, _, IdSet.length_flatMap_ofUInt64 ids, _, ⟨ids, hids, rfl, rfl⟩,
      request, ⟨hcode.symm, rfl, rfl⟩, rfl⟩
  | objectRequestAck ack hfinal =>
    obtain ⟨-, hat, hobject, -⟩ := hread
    simp only [kind, ofFrame, bind_eq_ok_iff, Frame.u8At_eq_ok_iff, Frame.u64At_eq_ok_iff]
    refine ⟨_, hat, _, hobject, ?_⟩
    rw [if_neg (Bool.eq_false_iff.mp (Flag.has_eq_false_of_clear ack.flag_clear)),
      ObjectRequestAck.ofFlag_eq_iff.mpr
        ⟨Flag.clear_eq_self _ ack.flag_clear, rfl, hfinal.symm⟩]
    rfl
  | objectRequestAckFinal ack finalId hfinal =>
    obtain ⟨-, hat, hobject, -⟩ := hread
    simp only [kind, ofFrame, bind_eq_ok_iff, Frame.u8At_eq_ok_iff, Frame.u64At_eq_ok_iff]
    refine ⟨_, hat, _, hobject, ?_⟩
    have hbody : Field.u64At (Bytes.ofUInt64 finalId) 0 = .ok finalId :=
      Field.u64At_eq_ok_iff.mpr List.prefix_rfl
    rw [if_pos (Flag.has_or_finalIdPresent _), bind_eq_ok_iff]
    refine ⟨finalId, Frame.bodyId_eq_ok_iff.mpr hbody, ?_⟩
    rw [ObjectRequestAck.ofFlag_eq_iff.mpr
      ⟨Flag.clear_or_eq_self _ ack.flag_clear, rfl, hfinal.symm⟩]
    rfl
  | objectRequestNack nack size hsize =>
    obtain ⟨-, hat, -, hobject, -⟩ := hread
    simp only [kind, ofFrame, bind_eq_ok_iff, Frame.u8At_eq_ok_iff, Frame.u64At_eq_ok_iff,
      Frame.payload_eq_ok_iff]
    exact ⟨_, hat, _, hobject, nack.message, rfl, rfl⟩
  | data sample size hsize =>
    obtain ⟨-, -, hsequence, htopic, -⟩ := hread
    simp only [kind, ofFrame, bind_eq_ok_iff, Frame.u32At_eq_ok_iff, Frame.u64At_eq_ok_iff,
      Frame.payload_eq_ok_iff]
    exact ⟨_, hsequence, _, htopic, sample.payload, rfl, rfl⟩

end Datagram

/-! ### What a complete frame spells -/

/-- Twelve bytes that start with the byte of the kind are the header of an object request. -/
theorem ObjectRequest.exists_fields_of_length {header : Bytes} (hlength : header.length = 12)
    (hhead : header.head? = some Kind.objectRequest.code) :
    ∃ code size objectId,
      header = Word.bytesOf [.u8 Kind.objectRequest.code, .u8 code, .u16 size, .u64 objectId] := by
  obtain ⟨rest, hrest⟩ := List.head?_eq_some_iff.mp hhead
  have hkind : Field.u8At header 0 = .ok Kind.objectRequest.code := by
    rw [hrest]
    rfl
  obtain ⟨code, hcode⟩ := Field.exists_u8At (by omega : 1 < header.length)
  obtain ⟨size, hsize⟩ := Field.exists_u16At (by omega : 2 + 2 ≤ header.length)
  obtain ⟨objectId, hobject⟩ := Field.exists_u64At (by omega : 4 + 8 ≤ header.length)
  exact ⟨code, size, objectId,
    Word.eq_bytesOf_iff.mpr ⟨hkind, hcode, hsize, hobject, Nat.le_of_eq hlength⟩⟩

namespace Frame

variable {kind : Kind} {frame : Frame}

/-- The header of a complete frame starts with the byte of the kind. -/
theorem IsFrameOf.u8At_zero (h : IsFrameOf kind frame) :
    Field.u8At frame.header 0 = .ok kind.code := by
  obtain ⟨rest, hrest⟩ := List.head?_eq_some_iff.mp h.head
  rw [hrest]
  rfl

theorem IsFrameOf.of_fixed {headerLength : Nat} (h : IsFrameOf kind frame)
    (hlayout : kind.layout? = some ⟨headerLength, .fixed⟩) :
    frame.header.length = headerLength ∧ frame.body = [] := by
  obtain ⟨-, layout, hkind, hfits⟩ := h
  cases hlayout.symm.trans hkind
  exact fits_fixed_iff.mp hfits

theorem IsFrameOf.of_sized {headerLength position : Nat} (h : IsFrameOf kind frame)
    (hlayout : kind.layout? = some ⟨headerLength, .sized position⟩) :
    frame.header.length = headerLength ∧
      ∃ size, Field.u16At frame.header position = .ok size ∧
        size.toNat = frame.body.length := by
  obtain ⟨-, layout, hkind, hfits⟩ := h
  cases hlayout.symm.trans hkind
  exact fits_sized_iff.mp hfits

theorem IsFrameOf.of_flagged {headerLength position : Nat} (h : IsFrameOf kind frame)
    (hlayout : kind.layout? = some ⟨headerLength, .flagged position⟩) :
    frame.header.length = headerLength ∧
      ∃ flag, Field.u8At frame.header position = .ok flag ∧
        (if Flag.has flag .finalIdPresent then 8 else 0) = frame.body.length := by
  obtain ⟨-, layout, hkind, hfits⟩ := h
  cases hlayout.symm.trans hkind
  exact fits_flagged_iff.mp hfits

/-- The header of an object request holds its fields and nothing else, and its size field is the
length of the body. -/
theorem IsFrameOf.exists_fields_objectRequest (h : IsFrameOf .objectRequest frame) :
    ∃ code size objectId, size.toNat = frame.body.length ∧
      frame.header =
        Word.bytesOf [.u8 Kind.objectRequest.code, .u8 code, .u16 size, .u64 objectId] := by
  obtain ⟨hlength, size, hsize, hbody⟩ := h.of_sized rfl
  obtain ⟨code, size', objectId, hheader⟩ := ObjectRequest.exists_fields_of_length hlength h.head
  obtain ⟨-, -, hsize', -⟩ := Word.eq_bytesOf_iff.mp hheader
  cases hsize.symm.trans hsize'
  exact ⟨code, size, objectId, hbody, hheader⟩

/-- The final id of an acknowledgement is its whole body, and there is one exactly if the flag has
its top bit. -/
theorem IsFrameOf.exists_spells_objectRequestAck (h : IsFrameOf .objectRequestAck frame) :
    ∃ d fields, d.kind = .objectRequestAck ∧ Spells d fields frame.body ∧
      frame.header = Word.bytesOf (.u8 Kind.objectRequestAck.code :: fields) := by
  obtain ⟨hheader, flag, hflag, hbody⟩ := h.of_flagged rfl
  obtain ⟨objectId, hobject⟩ := Field.exists_u64At (by omega : 2 + 8 ≤ frame.header.length)
  cases hhas : Flag.has flag .finalIdPresent with
  | false =>
    let ack := ObjectRequestAck.ofFlag flag objectId none
    have hack : Field.u8At frame.header 1 = .ok ack.flag := by
      rw [hflag, ← Flag.clear_eq_self_of_not_has flag hhas]
      rfl
    rw [hhas] at hbody
    rw [List.eq_nil_of_length_eq_zero hbody.symm]
    exact ⟨_, _, rfl, .objectRequestAck ack rfl,
      Word.eq_bytesOf_iff.mpr ⟨h.u8At_zero, hack, hobject, Nat.le_of_eq hheader⟩⟩
  | true =>
    let ack := ObjectRequestAck.ofFlag flag objectId (some (Bytes.toUInt64 frame.body))
    have hack : Field.u8At frame.header 1 = .ok (ack.flag ||| Flag.finalIdPresent) := by
      rw [hflag, ← Flag.or_clear_eq_self_of_has flag hhas]
      rfl
    rw [hhas] at hbody
    rw [← Bytes.ofUInt64_toUInt64 hbody.symm]
    exact ⟨_, _, rfl, .objectRequestAckFinal ack _ rfl,
      Word.eq_bytesOf_iff.mpr ⟨h.u8At_zero, hack, hobject, Nat.le_of_eq hheader⟩⟩

/-- A complete frame of a kind other than the object request spells a datagram of the kind: every
value of every field is one of the datagram's. -/
theorem IsFrameOf.exists_spells (h : IsFrameOf kind frame) (hkind : kind ≠ .objectRequest) :
    ∃ d fields, d.kind = kind ∧ Spells d fields frame.body ∧
      frame.header = Word.bytesOf (.u8 kind.code :: fields) := by
  have hcode := h.u8At_zero
  cases kind with
  | openStream | unknown =>
    obtain ⟨-, layout, hlayout, -⟩ := h
    cases hlayout
  | objectRequest => exact absurd rfl hkind
  | objectRequestAck => exact h.exists_spells_objectRequestAck
  | connect =>
    obtain ⟨hheader, hbody⟩ := h.of_fixed rfl
    rw [hbody]
    exact ⟨_, _, rfl, .connect, Word.eq_bytesOf_iff.mpr ⟨hcode, Nat.le_of_eq hheader⟩⟩
  | serverStatus =>
    obtain ⟨hheader, hbody⟩ := h.of_fixed rfl
    rw [hbody]
    exact ⟨_, _, rfl, .serverStatus, Word.eq_bytesOf_iff.mpr ⟨hcode, Nat.le_of_eq hheader⟩⟩
  | heartbeat =>
    obtain ⟨hheader, hbody⟩ := h.of_fixed rfl
    rw [hbody]
    exact ⟨_, _, rfl, .heartbeat, Word.eq_bytesOf_iff.mpr ⟨hcode, Nat.le_of_eq hheader⟩⟩
  | heartbeatRequest =>
    obtain ⟨hheader, hbody⟩ := h.of_fixed rfl
    rw [hbody]
    exact ⟨_, _, rfl, .heartbeatRequest, Word.eq_bytesOf_iff.mpr ⟨hcode, Nat.le_of_eq hheader⟩⟩
  | connectAck =>
    obtain ⟨hheader, hbody⟩ := h.of_fixed rfl
    obtain ⟨clientId, hclient⟩ := Field.exists_u64At (by omega : 1 + 8 ≤ frame.header.length)
    obtain ⟨period, hperiod⟩ := Field.exists_u16At (by omega : 9 + 2 ≤ frame.header.length)
    rw [hbody]
    exact ⟨_, _, rfl, .connectAck ⟨clientId, period⟩,
      Word.eq_bytesOf_iff.mpr ⟨hcode, hclient, hperiod, Nat.le_of_eq hheader⟩⟩
  | connectNack =>
    obtain ⟨hheader, size, hsize, hbody⟩ := h.of_sized rfl
    exact ⟨_, _, rfl, .connectNack ⟨⟨frame.body, Payload.length_le_of_size hbody⟩⟩ size hbody,
      Word.eq_bytesOf_iff.mpr ⟨hcode, hsize, Nat.le_of_eq hheader⟩⟩
  | shutdown =>
    obtain ⟨hheader, hbody⟩ := h.of_fixed rfl
    obtain ⟨code, hat⟩ := Field.exists_u8At (by omega : 1 < frame.header.length)
    rw [hbody]
    exact ⟨_, _, rfl, .shutdown ⟨.ofCode code⟩ code rfl,
      Word.eq_bytesOf_iff.mpr ⟨hcode, hat, Nat.le_of_eq hheader⟩⟩
  | serverStatusAck =>
    obtain ⟨hheader, hbody⟩ := h.of_fixed rfl
    obtain ⟨clients, hclients⟩ := Field.exists_u64At (by omega : 1 + 8 ≤ frame.header.length)
    rw [hbody]
    exact ⟨_, _, rfl, .serverStatusAck ⟨clients⟩,
      Word.eq_bytesOf_iff.mpr ⟨hcode, hclients, Nat.le_of_eq hheader⟩⟩
  | ping =>
    obtain ⟨hheader, hbody⟩ := h.of_fixed rfl
    obtain ⟨pingId, hat⟩ := Field.exists_u8At (by omega : 1 < frame.header.length)
    rw [hbody]
    exact ⟨_, _, rfl, .ping ⟨pingId⟩,
      Word.eq_bytesOf_iff.mpr ⟨hcode, hat, Nat.le_of_eq hheader⟩⟩
  | pong =>
    obtain ⟨hheader, hbody⟩ := h.of_fixed rfl
    obtain ⟨pingId, hat⟩ := Field.exists_u8At (by omega : 1 < frame.header.length)
    rw [hbody]
    exact ⟨_, _, rfl, .pong ⟨pingId⟩,
      Word.eq_bytesOf_iff.mpr ⟨hcode, hat, Nat.le_of_eq hheader⟩⟩
  | topicRequest =>
    obtain ⟨hheader, hbody⟩ := h.of_fixed rfl
    obtain ⟨code, hat⟩ := Field.exists_u8At (by omega : 1 < frame.header.length)
    obtain ⟨topicId, htopic⟩ := Field.exists_u64At (by omega : 2 + 8 ≤ frame.header.length)
    rw [hbody]
    exact ⟨_, _, rfl, .topicRequest ⟨.ofCode code, topicId⟩ code rfl,
      Word.eq_bytesOf_iff.mpr ⟨hcode, hat, htopic, Nat.le_of_eq hheader⟩⟩
  | topicRequestAck =>
    obtain ⟨hheader, hbody⟩ := h.of_fixed rfl
    obtain ⟨code, hat⟩ := Field.exists_u8At (by omega : 1 < frame.header.length)
    obtain ⟨topicId, htopic⟩ := Field.exists_u64At (by omega : 2 + 8 ≤ frame.header.length)
    rw [hbody]
    exact ⟨_, _, rfl, .topicRequestAck ⟨.ofCode code, topicId⟩ code rfl,
      Word.eq_bytesOf_iff.mpr ⟨hcode, hat, htopic, Nat.le_of_eq hheader⟩⟩
  | topicRequestNack =>
    obtain ⟨hheader, size, hsize, hbody⟩ := h.of_sized rfl
    obtain ⟨code, hat⟩ := Field.exists_u8At (by omega : 1 < frame.header.length)
    exact ⟨_, _, rfl,
      .topicRequestNack ⟨.ofCode code, ⟨frame.body, Payload.length_le_of_size hbody⟩⟩ code size
        rfl hbody,
      Word.eq_bytesOf_iff.mpr ⟨hcode, hat, hsize, Nat.le_of_eq hheader⟩⟩
  | objectRequestNack =>
    obtain ⟨hheader, size, hsize, hbody⟩ := h.of_sized rfl
    obtain ⟨flag, hflag⟩ := Field.exists_u8At (by omega : 1 < frame.header.length)
    obtain ⟨objectId, hobject⟩ := Field.exists_u64At (by omega : 4 + 8 ≤ frame.header.length)
    exact ⟨_, _, rfl,
      .objectRequestNack ⟨flag, objectId, ⟨frame.body, Payload.length_le_of_size hbody⟩⟩ size
        hbody,
      Word.eq_bytesOf_iff.mpr ⟨hcode, hflag, hsize, hobject, Nat.le_of_eq hheader⟩⟩
  | data =>
    obtain ⟨hheader, size, hsize, hbody⟩ := h.of_sized rfl
    obtain ⟨sequence, hsequence⟩ := Field.exists_u32At (by omega : 3 + 4 ≤ frame.header.length)
    obtain ⟨topicId, htopic⟩ := Field.exists_u64At (by omega : 7 + 8 ≤ frame.header.length)
    exact ⟨_, _, rfl,
      .data ⟨sequence, topicId, ⟨frame.body, Payload.length_le_of_size hbody⟩⟩ size hbody,
      Word.eq_bytesOf_iff.mpr ⟨hcode, hsize, hsequence, htopic, Nat.le_of_eq hheader⟩⟩

end Frame

namespace Datagram

/-- An object request is read only from the ids of its set. -/
theorem exists_spells_of_ofFrame_objectRequest {frame : Frame} {d : Datagram}
    (hframe : Frame.IsFrameOf .objectRequest frame) (h : ofFrame .objectRequest frame = .ok d) :
    ∃ fields, d.kind = .objectRequest ∧ Spells d fields frame.body ∧
      frame.header = Word.bytesOf (.u8 Kind.objectRequest.code :: fields) := by
  obtain ⟨code, size, objectId, hsize, hheader⟩ := hframe.exists_fields_objectRequest
  obtain ⟨-, hcode, -, hobject, -⟩ := Word.eq_bytesOf_iff.mp hheader
  simp only [ofFrame, bind_eq_ok_iff, Frame.u8At_eq_ok_iff, Frame.u64At_eq_ok_iff,
    mapError_eq_ok_iff, IdSet.decode_eq_ok_iff, ObjectRequest.ofTopics_eq_ok_iff] at h
  obtain ⟨code', hcode', objectId', hobject', -, -, topicIds, ⟨ids, hids, -, hbody⟩, request,
    ⟨haction, hid, htopics⟩, hd⟩ := h
  cases hcode.symm.trans hcode'
  cases hobject.symm.trans hobject'
  cases pure_eq_ok_iff.mp hd
  subst hid htopics
  rw [hbody] at hsize ⊢
  exact ⟨_, rfl, .objectRequest request code size ids haction.symm hids hsize, hheader⟩

/-- A frame that is read as a datagram spells it. -/
theorem exists_spells_of_ofFrame {kind : Kind} {frame : Frame} {d : Datagram}
    (hframe : Frame.IsFrameOf kind frame) (h : ofFrame kind frame = .ok d) :
    ∃ fields, d.kind = kind ∧ Spells d fields frame.body ∧
      frame.header = Word.bytesOf (.u8 kind.code :: fields) := by
  by_cases hkind : kind = .objectRequest
  · subst hkind
    exact exists_spells_of_ofFrame_objectRequest hframe h
  · -- A complete frame of another kind spells some datagram, and it is read as what it spells.
    obtain ⟨d', fields, rfl, hspells, hheader⟩ := hframe.exists_spells hkind
    have h' := ofFrame_of_spells hspells (Word.eq_bytesOf_iff.mp hheader)
    cases h'.symm.trans h
    exact ⟨fields, rfl, hspells, hheader⟩

/-! ### Wire forms -/

/-- A wire form is read as its datagram, whatever follows it. -/
theorem decode_append_of_wireForm {d : Datagram} {w : Bytes} (h : WireForm d w) (tail : Bytes) :
    decode (w ++ tail) = .ok (d, w.length) := by
  obtain ⟨fields, body, hspells, rfl⟩ := h
  refine decode_eq_ok_iff_frame.mpr ⟨d.kind, ⟨Word.bytesOf (.u8 d.kind.code :: fields), body⟩,
    hspells.isFrameOf, ofFrame_of_spells hspells (Word.allReadAt_bytesOf _),
    List.prefix_append _ _, ?_⟩
  rw [List.length_append]
  rfl

/-- The bytes that a datagram was read from are a wire form of it. -/
theorem wireForm_of_decode {buf : Bytes} {d : Datagram} {n : Nat} (h : decode buf = .ok (d, n)) :
    WireForm d (buf.take n) := by
  obtain ⟨kind, frame, hframe, hdatagram, hprefix, rfl⟩ := decode_eq_ok_iff_frame.mp h
  obtain ⟨fields, rfl, hspells, hheader⟩ := exists_spells_of_ofFrame hframe hdatagram
  refine ⟨fields, frame.body, hspells, ?_⟩
  rw [Frame.take_length_eq hprefix, Frame.bytes, hheader]

/-- The decoder accepts exactly the wire grammar: it reads a datagram from the first bytes of a byte
string, so many of them, exactly if these are a wire form of the datagram. -/
theorem decode_eq_ok_iff_wireForm (buf : Bytes) (d : Datagram) (n : Nat) :
    decode buf = .ok (d, n) ↔ n ≤ buf.length ∧ WireForm d (buf.take n) := by
  constructor
  · intro h
    exact ⟨consumed_le h, wireForm_of_decode h⟩
  · rintro ⟨hn, hform⟩
    have h := decode_append_of_wireForm hform (buf.drop n)
    rwa [List.take_append_drop, List.length_take_of_le hn] at h

/-- What is written is read back, whatever follows it. The form starts with the byte of the kind
and has the length that is counted without writing. -/
theorem decode_encode_append (growth : Growth) (d : Datagram) (tail : Bytes) :
    decode ((d.encode growth).bytes ++ tail) = .ok (d, d.encodedLength) ∧
      (d.encode growth).bytes.length = d.encodedLength ∧
      (d.encode growth).bytes.head? = some d.kind.code := by
  have hform := wireForm_wire d
  have hlength := hform.length_eq
  rw [bytes_encode]
  refine ⟨?_, hlength, ?_⟩
  · rw [decode_append_of_wireForm hform, hlength]
  · rw [wire_eq]
    rfl

end Datagram

end TopicWire
