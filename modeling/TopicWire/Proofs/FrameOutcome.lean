import TopicWire.Proofs.DecodeGrammar

/-!
# What becomes of a complete frame

The field that tells the length of a body lies inside the header, so a header of the right length
always tells it (`Kind.exists_bodyLength`). A byte string that starts with the byte of a kind is
therefore either refused for want of bytes or has a complete frame of the kind at its front
(`Frame.read_outcome`). A complete frame is decided: it is read as a datagram, or it is an object
request that is refused for its ids (`Datagram.ofFrame_outcome`). So every decoder answers on every
byte string (`Datagram.answered_decode`, `Datagram.answered_decodeAs`).
-/

set_option autoImplicit false
set_option relaxedAutoImplicit false

namespace TopicWire

/-- An answer is a result or a refusal. What it is not is the report of an access out of bounds. -/
def Answered {α : Type} (outcome : Except Fault α) : Prop :=
  (∃ a, outcome = .ok a) ∨ ∃ reason, outcome = .error (.refused reason)

/-! ### The length of the body -/

/-- The number of header bytes that are needed to tell the length of the body. -/
def Extent.reach : Extent → Nat
  | fixed => 0
  | sized position => position + 2
  | flagged position => position + 1

/-- In every layout the field that tells the length of the body lies inside the header. -/
theorem Kind.reach_le_headerLength {kind : Kind} {layout : Layout}
    (h : kind.layout? = some layout) : layout.extent.reach ≤ layout.headerLength := by
  cases kind <;> cases h <;> decide

/-- Bytes beyond the field that tells the length of the body always tell it. -/
theorem Layout.exists_bodyLength {layout : Layout} {header : Bytes}
    (h : layout.extent.reach ≤ header.length) :
    ∃ declared, layout.bodyLength header = .ok declared := by
  unfold bodyLength
  cases hextent : layout.extent with
  | fixed => exact ⟨0, rfl⟩
  | sized position =>
    rw [hextent] at h
    obtain ⟨size, hsize⟩ := Field.exists_u16At h
    exact ⟨size.toNat, map_eq_ok_iff.mpr ⟨size, hsize, rfl⟩⟩
  | flagged position =>
    rw [hextent] at h
    obtain ⟨flag, hflag⟩ := Field.exists_u8At h
    exact ⟨_, map_eq_ok_iff.mpr ⟨flag, hflag, rfl⟩⟩

/-- A header of the length of the layout tells the length of the body. -/
theorem Kind.exists_bodyLength {kind : Kind} {layout : Layout} {header : Bytes}
    (h : kind.layout? = some layout) (hlength : header.length = layout.headerLength) :
    ∃ declared, layout.bodyLength header = .ok declared := by
  apply Layout.exists_bodyLength
  rw [hlength]
  exact Kind.reach_le_headerLength h

/-- A frame is found at the front of a byte string, or bytes are wanting: a reading in the layout
of a kind never reaches beyond the string. -/
theorem Frame.read_outcome {kind : Kind} {layout : Layout} (h : kind.layout? = some layout)
    (buf : Bytes) :
    (∃ frame, read kind layout buf = .ok frame) ∨
      ∃ reason : ProtocolError,
        read kind layout buf = .error (.refused reason) ∧ reason.isTruncation = true := by
  by_cases hheader : buf.length < layout.headerLength
  · exact .inr ⟨_, read_of_short_header hheader, rfl⟩
  · rw [Nat.not_lt] at hheader
    obtain ⟨declared, hbody⟩ := Kind.exists_bodyLength h (List.length_take_of_le hheader)
    by_cases hshort : buf.length < layout.headerLength + declared
    · exact .inr ⟨_, read_of_short_body hheader hbody hshort, layout.isTruncation_shortage ..⟩
    · exact .inl ⟨_, read_of_complete hbody (Nat.not_lt.mp hshort)⟩

/-! ### The ids of an object request -/

/-- A set that is read from a run of bytes takes as many bytes to write. -/
theorem IdSet.encodedLength_size_of_decode {bs : Bytes} {count : Nat} {s : IdSet}
    (h : decode bs count = .ok s) : encodedLength s.size = bs.length := by
  obtain ⟨ids, hperm, -, rfl⟩ := decode_eq_ok_iff.mp h
  rw [length_flatMap_ofUInt64, hperm.length_eq]
  rfl

/-- A request is built from any set that fits the size field. -/
theorem ObjectRequest.ofTopics_ne_error {action : ObjectAction} {objectId : UInt64}
    {topicIds : IdSet} (h : IdSet.encodedLength topicIds.size ≤ maxPayloadLength)
    (reason : ProtocolError) : ofTopics action objectId topicIds ≠ .error reason := by
  intro herror
  rw [ofTopics, dif_pos h] at herror
  cases herror

namespace Datagram

/-- A complete object request is refused only for its ids: their bytes are no whole number of ids,
or one of them occurs earlier. -/
theorem ofFrame_objectRequest_eq_error_iff {frame : Frame} {fault : Fault}
    (hframe : Frame.IsFrameOf .objectRequest frame) :
    ofFrame .objectRequest frame = .error fault ↔
      frame.body.length % 8 ≠ 0 ∧ fault = .refused (.malformedIdSet frame.body.length) ∨
      frame.body.length % 8 = 0 ∧
        ∃ id, IdSet.firstRepeat? ∅ (IdSet.words (frame.body.length / 8) frame.body) = some id ∧
          fault = .refused (.duplicateId id) := by
  obtain ⟨code, size, objectId, hsize, hheader⟩ := hframe.exists_fields_objectRequest
  obtain ⟨-, hcode, -, hobject, -⟩ := Word.eq_bytesOf_iff.mp hheader
  simp only [ofFrame, bind_eq_error_iff, mapError_eq_error_iff]
  constructor
  · intro h
    -- One case for each step that might have failed, in their order.
    rcases h with h | ⟨_, -, h | ⟨_, -, h | ⟨count, hcount, h | ⟨topicIds, hids, h | ⟨_, -, h⟩⟩⟩⟩⟩
    · cases h.symm.trans (Frame.u8At_eq_ok_iff.mpr hcode)
    · cases h.symm.trans (Frame.u64At_eq_ok_iff.mpr hobject)
    · obtain ⟨reason, hreason, rfl⟩ := h
      obtain ⟨hcut, rfl⟩ := IdSet.countForSize_eq_error_iff.mp hreason
      exact .inl ⟨hcut, rfl⟩
    · obtain ⟨reason, hreason, rfl⟩ := h
      have hlength := IdSet.countForSize_eq_ok_iff.mp (mapError_eq_ok_iff.mp hcount)
      obtain ⟨id, hrepeat, rfl⟩ := (IdSet.decode_eq_error_iff hlength).mp hreason
      rw [IdSet.encodedLength] at hlength
      rw [hlength, Nat.mul_mod_right, Nat.mul_div_cancel_left count (Nat.zero_lt_succ 7)]
      exact .inr ⟨rfl, id, hrepeat, rfl⟩
    · -- The ids came in a body that a size field declares, so the request can hold them.
      obtain ⟨reason, hreason, -⟩ := h
      have hfits : IdSet.encodedLength topicIds.size ≤ maxPayloadLength := by
        rw [IdSet.encodedLength_size_of_decode (mapError_eq_ok_iff.mp hids)]
        exact Payload.length_le_of_size hsize
      exact absurd hreason (ObjectRequest.ofTopics_ne_error hfits reason)
    · cases h
  · intro h
    refine .inr ⟨code, Frame.u8At_eq_ok_iff.mpr hcode, .inr
      ⟨objectId, Frame.u64At_eq_ok_iff.mpr hobject, ?_⟩⟩
    rcases h with ⟨hcut, rfl⟩ | ⟨hwhole, id, hrepeat, rfl⟩
    · exact .inl ⟨_, IdSet.countForSize_eq_error_iff.mpr ⟨hcut, rfl⟩, rfl⟩
    · have hlength : frame.body.length = IdSet.encodedLength (frame.body.length / 8) := by
        rw [IdSet.encodedLength]
        omega
      exact .inr ⟨_, mapError_eq_ok_iff.mpr (IdSet.countForSize_eq_ok_iff.mpr hlength), .inl
        ⟨_, (IdSet.decode_eq_error_iff hlength).mpr ⟨id, hrepeat, rfl⟩, rfl⟩⟩

/-- A complete frame is read as a datagram, or it is an object request that is refused for its
ids. -/
theorem ofFrame_outcome {kind : Kind} {frame : Frame} (hframe : Frame.IsFrameOf kind frame) :
    (∃ d, ofFrame kind frame = .ok d) ∨
      kind = .objectRequest ∧ ∃ reason : ProtocolError,
        ofFrame kind frame = .error (.refused reason) ∧ reason.isTruncation = false := by
  by_cases hkind : kind = .objectRequest
  · subst hkind
    cases h : ofFrame .objectRequest frame with
    | ok d => exact .inl ⟨d, rfl⟩
    | error fault =>
      rcases (ofFrame_objectRequest_eq_error_iff hframe).mp h with ⟨-, rfl⟩ | ⟨-, id, -, rfl⟩
      · exact .inr ⟨rfl, _, rfl, rfl⟩
      · exact .inr ⟨rfl, _, rfl, rfl⟩
  · obtain ⟨d, fields, rfl, hspells, hheader⟩ := hframe.exists_spells hkind
    exact .inl ⟨d, ofFrame_of_spells hspells (Word.eq_bytesOf_iff.mp hheader)⟩

/-! ### The answers of the decoder -/

/-- A byte string that is refused for want of bytes has no complete frame at its front. -/
theorem not_prefix_of_truncation {buf : Bytes} {reason : ProtocolError}
    (h : decode buf = .error (.refused reason)) (htruncation : reason.isTruncation = true)
    {kind : Kind} {frame : Frame} (hframe : Frame.IsFrameOf kind frame) :
    ¬ frame.bytes <+: buf := by
  intro hfront
  rw [decode_of_isFrameOf hframe hfront] at h
  rcases ofFrame_outcome hframe with ⟨d, hd⟩ | ⟨-, final, hfinal, hdecided⟩
  · rw [hd] at h
    cases h
  · rw [hfinal] at h
    cases h
    rw [htruncation] at hdecided
    cases hdecided

/-- The decoder answers on every byte string. -/
theorem answered_decode (buf : Bytes) : Answered (decode buf) := by
  cases buf with
  | nil => exact .inr ⟨_, decode_nil⟩
  | cons code bs =>
    cases hlayout : (Kind.ofCode code).layout? with
    | none => exact .inr ⟨_, decode_of_no_layout hlayout bs⟩
    | some layout =>
      rcases Frame.read_outcome hlayout (code :: bs) with ⟨frame, hread⟩ | ⟨reason, hread, -⟩
      · have hframe := Frame.isFrameOf_of_read hlayout hread
        rw [decode_of_isFrameOf hframe (Frame.read_eq_ok_iff.mp hread).2]
        rcases ofFrame_outcome hframe with ⟨d, hd⟩ | ⟨-, reason, hreason, -⟩
        · rw [hd]
          exact .inl ⟨_, rfl⟩
        · rw [hreason]
          exact .inr ⟨reason, rfl⟩
      · rw [decode_of_layout hlayout, hread]
        exact .inr ⟨reason, rfl⟩

/-- The decoder of one kind answers on every byte string, whatever kind its first byte names. -/
theorem answered_decodeAs (kind : Kind) (buf : Bytes) : Answered (decodeAs kind buf) := by
  cases buf with
  | nil => exact .inr ⟨.empty, rfl⟩
  | cons code bs =>
    by_cases hcode : code = kind.code
    · -- The byte is that of the kind, so the kind is the one that the decoder takes from it.
      have h := answered_decode (code :: bs)
      rwa [decode_cons, hcode, Kind.ofCode_code, ← hcode] at h
    · right
      cases hlayout : kind.layout? with
      | none => exact ⟨.unsupportedType kind, by simp only [decodeAs, hlayout]; rfl⟩
      | some layout =>
        refine ⟨.unexpectedType kind code, ?_⟩
        simp only [decodeAs, hlayout, if_neg hcode]
        rfl

end Datagram

end TopicWire
