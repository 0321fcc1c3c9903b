import TopicWire.Proofs.InPlaceReading

/-!
# Which refusal a byte string gets

The checks of the decoder come in a fixed order, and the first one that fails names the refusal.
`Refused` is the table of these checks: each row states what the checks before it have found, what
this one finds, and the numbers that the refusal carries. Every byte string in the table is refused
as its row says (`Refused.decode_eq`), and one that is in no row is read
(`Datagram.accepted_or_refused`). So the decoder fails exactly by the table
(`Datagram.decode_eq_error_iff_refused`).

How far the checks get is told by lengths alone (`Layout.Progress`), and for each of the three
places where they may stop one equation says what the decoder answers there.
-/

set_option autoImplicit false
set_option relaxedAutoImplicit false

namespace TopicWire

/-! ### How far a byte string gets -/

/-- How far a byte string gets in a layout: it ends in the header, or in the body that the header
declares, or it holds both. -/
inductive Layout.Progress (layout : Layout) (buf : Bytes) : Prop where
  | inHeader (hshort : buf.length < layout.headerLength)
  | inBody (declared : Nat) (hheader : layout.headerLength ≤ buf.length)
      (hbody : layout.bodyLength (buf.take layout.headerLength) = .ok declared)
      (hshort : buf.length < layout.headerLength + declared)
  | complete (declared : Nat)
      (hbody : layout.bodyLength (buf.take layout.headerLength) = .ok declared)
      (hlong : layout.headerLength + declared ≤ buf.length)

namespace Kind

/-- In the layout of a kind a byte string always gets to one of the three places. -/
theorem progress {kind : Kind} {layout : Layout} (h : kind.layout? = some layout) (buf : Bytes) :
    layout.Progress buf := by
  by_cases hheader : buf.length < layout.headerLength
  · exact .inHeader hheader
  · rw [Nat.not_lt] at hheader
    obtain ⟨declared, hbody⟩ := exists_bodyLength h (List.length_take_of_le hheader)
    by_cases hshort : buf.length < layout.headerLength + declared
    · exact .inBody declared hheader hbody hshort
    · exact .complete declared hbody (Nat.not_lt.mp hshort)

/-- A byte string names a kind by its first byte. -/
theorem exists_of_peek? {buf : Bytes} {kind : Kind} (h : peek? buf = some kind) :
    ∃ code bs, buf = code :: bs ∧ ofCode code = kind := by
  cases buf with
  | nil => cases h
  | cons code bs => exact ⟨code, bs, rfl, Option.some.inj h⟩

/-- The bytes without a layout are those of two kinds and the bytes of no kind. -/
theorem layout?_ofCode_eq_none_iff {code : UInt8} :
    (ofCode code).layout? = none ↔
      code = openStream.code ∨ code = unknown.code ∨ ∀ kind : Kind, kind.code ≠ code := by
  constructor
  · intro h
    by_cases hclaimed : ∃ kind : Kind, kind.code = code
    · obtain ⟨kind, rfl⟩ := hclaimed
      rw [ofCode_code] at h
      cases kind with
      | openStream => exact .inl rfl
      | unknown => exact .inr (.inl rfl)
      | _ => cases h
    · exact .inr (.inr fun kind hkind ↦ hclaimed ⟨kind, hkind⟩)
  · rintro (rfl | rfl | hfree)
    · rfl
    · rfl
    · cases hlayout : (ofCode code).layout? with
      | none => rfl
      | some layout => exact absurd (code_ofCode hlayout) (hfree _)

/-- Only the acknowledgement of an object request has a body that a flag announces. -/
theorem eq_of_layout?_flagged {kind : Kind} {headerLength position : Nat}
    (h : kind.layout? = some ⟨headerLength, .flagged position⟩) :
    kind = .objectRequestAck ∧ headerLength = 10 ∧ position = 1 := by
  cases kind <;> cases h
  exact ⟨rfl, rfl, rfl⟩

end Kind

namespace Layout

variable {buf : Bytes} {headerLength position : Nat}

/-- A size field in the header is read off the whole byte string. -/
theorem bodyLength_sized (hfield : position + 2 ≤ headerLength) (h : headerLength ≤ buf.length) :
    bodyLength ⟨headerLength, .sized position⟩ (buf.take headerLength) =
      (Field.u16At buf position).map UInt16.toNat := by
  simp only [bodyLength, Field.u16At, InPlace.bytesAt_take hfield h]

/-- A flag in the header is read off the whole byte string. -/
theorem bodyLength_flagged (hfield : position < headerLength) (h : headerLength ≤ buf.length) :
    bodyLength ⟨headerLength, .flagged position⟩ (buf.take headerLength) =
      (Field.u8At buf position).map fun flag ↦ if Flag.has flag .finalIdPresent then 8 else 0 := by
  simp only [bodyLength, Field.u8At, List.getElem?_take_of_lt hfield,
    List.getElem?_eq_getElem (Nat.lt_of_lt_of_le hfield h)]

end Layout

/-! ### What the decoder answers there -/

namespace Datagram

section Answers

variable {buf : Bytes} {kind : Kind} {layout : Layout} {declared : Nat}

theorem decode_of_peek? (hkind : Kind.peek? buf = some kind)
    (hlayout : kind.layout? = some layout) :
    decode buf = do
      let frame ← Frame.read kind layout buf
      let datagram ← ofFrame kind frame
      return (datagram, frame.length) := by
  obtain ⟨code, bs, rfl, rfl⟩ := Kind.exists_of_peek? hkind
  exact decode_of_layout hlayout bs

theorem decode_of_short_header (hkind : Kind.peek? buf = some kind)
    (hlayout : kind.layout? = some layout) (hshort : buf.length < layout.headerLength) :
    decode buf = .error (.refused (.truncated kind layout.headerLength buf.length)) := by
  rw [decode_of_peek? hkind hlayout, Frame.read_of_short_header hshort]
  rfl

theorem decode_of_short_body (hkind : Kind.peek? buf = some kind)
    (hlayout : kind.layout? = some layout) (hheader : layout.headerLength ≤ buf.length)
    (hbody : layout.bodyLength (buf.take layout.headerLength) = .ok declared)
    (hshort : buf.length < layout.headerLength + declared) :
    decode buf =
      .error (.refused (layout.shortage kind declared (buf.length - layout.headerLength))) := by
  rw [decode_of_peek? hkind hlayout, Frame.read_of_short_body hheader hbody hshort]
  rfl

/-- Where header and body are complete, what the frame of the two is read as is the answer. -/
theorem decode_of_complete (hkind : Kind.peek? buf = some kind)
    (hlayout : kind.layout? = some layout)
    (hbody : layout.bodyLength (buf.take layout.headerLength) = .ok declared)
    (hlong : layout.headerLength + declared ≤ buf.length) :
    ∃ frame : Frame, Frame.IsFrameOf kind frame ∧
      frame.body = (buf.drop layout.headerLength).take declared ∧
      decode buf = (ofFrame kind frame).map fun d ↦ (d, frame.length) := by
  obtain ⟨code, bs, rfl, rfl⟩ := Kind.exists_of_peek? hkind
  have hread : Frame.read (Kind.ofCode code) layout (code :: bs) = .ok ⟨_, _⟩ :=
    Frame.read_of_complete hbody hlong
  have hframe := Frame.isFrameOf_of_read hlayout hread
  exact ⟨_, hframe, rfl, decode_of_isFrameOf hframe (Frame.read_eq_ok_iff.mp hread).2⟩

/-- Where header and body are complete, no more bytes are waited for. -/
theorem decided_of_complete (hkind : Kind.peek? buf = some kind)
    (hlayout : kind.layout? = some layout)
    (hbody : layout.bodyLength (buf.take layout.headerLength) = .ok declared)
    (hlong : layout.headerLength + declared ≤ buf.length) : Decided (decode buf) := by
  obtain ⟨frame, hframe, -, hdecode⟩ := decode_of_complete hkind hlayout hbody hlong
  rw [hdecode]
  rcases ofFrame_outcome hframe with ⟨d, hd⟩ | ⟨-, reason, hreason, hfinal⟩
  · rw [hd]
    exact decided_ok _
  · rw [hreason]
    intro fault hfault
    cases hfault
    exact hfinal

/-- A byte string that is refused for want of bytes is empty, or it ends in its header, or in the
body that its header declares. -/
theorem cut_of_truncation {reason : ProtocolError} (h : decode buf = .error (.refused reason))
    (htruncation : reason.isTruncation = true) :
    buf = [] ∨ ∃ kind layout, Kind.peek? buf = some kind ∧ kind.layout? = some layout ∧
      (buf.length < layout.headerLength ∨
        ∃ declared, layout.headerLength ≤ buf.length ∧
          layout.bodyLength (buf.take layout.headerLength) = .ok declared ∧
          buf.length < layout.headerLength + declared) := by
  cases buf with
  | nil => exact .inl rfl
  | cons code bs =>
    right
    cases hlayout : (Kind.ofCode code).layout? with
    | none =>
      rw [decode_of_no_layout hlayout] at h
      cases h
      cases htruncation
    | some layout =>
      have hkind : Kind.peek? (code :: bs) = some (Kind.ofCode code) := rfl
      refine ⟨_, layout, hkind, hlayout, ?_⟩
      cases Kind.progress hlayout (code :: bs) with
      | inHeader hshort => exact .inl hshort
      | inBody declared hheader hbody hshort => exact .inr ⟨declared, hheader, hbody, hshort⟩
      | complete declared hbody hlong =>
        have hfinal := decided_of_complete hkind hlayout hbody hlong _ h
        cases hfinal.symm.trans htruncation

end Answers

end Datagram

namespace ObjectRequest

variable {buf : Bytes} {size : Nat} {ids : List UInt64}

/-- A payload that is all there is as long as the size field says. -/
theorem length_payload (h : 12 + size ≤ buf.length) : ((buf.drop 12).take size).length = size := by
  rw [List.length_take, List.length_drop]
  omega

/-- A payload that is all there consists of the ids that are read from it, if it is a whole number
of ids. -/
theorem payload_eq_flatMap_iff (h : 12 + size ≤ buf.length) :
    (buf.drop 12).take size = ids.flatMap Bytes.ofUInt64 ↔
      size % 8 = 0 ∧ IdSet.words (size / 8) ((buf.drop 12).take size) = ids := by
  have hlength := length_payload h
  constructor
  · intro hids
    obtain ⟨hcount, hwords⟩ := IdSet.words_eq_iff.mpr ⟨rfl, hids⟩
    rw [hlength, IdSet.encodedLength] at hcount
    have hdiv : size / 8 = ids.length := by omega
    rw [hdiv]
    exact ⟨by omega, hwords⟩
  · rintro ⟨hwhole, hwords⟩
    have hcount : ((buf.drop 12).take size).length = IdSet.encodedLength (size / 8) := by
      rw [hlength, IdSet.encodedLength]
      omega
    exact (IdSet.words_eq_iff.mp ⟨hcount, hwords⟩).2

end ObjectRequest

/-! ### The table -/

/-- The byte strings that are refused, each with its reason. The rows stand in the order of the
checks, and a row assumes that the checks of the rows above it have passed. -/
inductive Refused : Bytes → ProtocolError → Prop where
  /-- There is no first byte. -/
  | empty : Refused [] .empty
  /-- The first byte is that of a stream opening, of the unknown kind or of no kind. -/
  | unsupportedType {code : UInt8} {bs : Bytes}
      (hcode : code = Kind.openStream.code ∨ code = Kind.unknown.code ∨
        ∀ kind : Kind, kind.code ≠ code) :
      Refused (code :: bs) (.unsupportedType (Kind.ofCode code))
  /-- The string is shorter than the header of its kind. -/
  | shortHeader {buf : Bytes} {kind : Kind} {layout : Layout}
      (hkind : Kind.peek? buf = some kind) (hlayout : kind.layout? = some layout)
      (hshort : buf.length < layout.headerLength) :
      Refused buf (.truncated kind layout.headerLength buf.length)
  /-- The flag of an acknowledgement announces a final id that is not all there. -/
  | shortFinalId {buf : Bytes} {flag : Flag}
      (hkind : Kind.peek? buf = some .objectRequestAck) (hheader : 10 ≤ buf.length)
      (hflag : Field.u8At buf 1 = .ok flag) (hpresent : Flag.has flag .finalIdPresent = true)
      (hshort : buf.length < 18) :
      Refused buf (.truncated .objectRequestAck 18 buf.length)
  /-- The size field declares more bytes than follow the header. -/
  | shortPayload {buf : Bytes} {kind : Kind} {headerLength position : Nat} {size : UInt16}
      (hkind : Kind.peek? buf = some kind)
      (hlayout : kind.layout? = some ⟨headerLength, .sized position⟩)
      (hheader : headerLength ≤ buf.length) (hsize : Field.u16At buf position = .ok size)
      (hshort : buf.length - headerLength < size.toNat) :
      Refused buf (.lengthMismatch kind size.toNat (buf.length - headerLength))
  /-- The payload of an object request is no whole number of ids. -/
  | malformedIdSet {buf : Bytes} {size : UInt16}
      (hkind : Kind.peek? buf = some .objectRequest) (hsize : Field.u16At buf 2 = .ok size)
      (hbody : 12 + size.toNat ≤ buf.length) (hcut : size.toNat % 8 ≠ 0) :
      Refused buf (.malformedIdSet size.toNat)
  /-- In the payload of an object request an id comes that came earlier, and before it none did. -/
  | duplicateId {buf : Bytes} {size : UInt16} {earlier later : List UInt64} {id : UInt64}
      (hkind : Kind.peek? buf = some .objectRequest) (hsize : Field.u16At buf 2 = .ok size)
      (hbody : 12 + size.toNat ≤ buf.length)
      (hids : (buf.drop 12).take size.toNat = (earlier ++ id :: later).flatMap Bytes.ofUInt64)
      (hfirst : earlier.Nodup) (hrepeat : id ∈ earlier) :
      Refused buf (.duplicateId id)

namespace Refused

variable {buf : Bytes} {reason : ProtocolError}

/-- The payload of an object request that is all there is the body of its frame, and its ids decide
the answer. -/
theorem decode_eq_of_objectRequest {size : UInt16} {fault : Fault}
    (hkind : Kind.peek? buf = some .objectRequest) (hsize : Field.u16At buf 2 = .ok size)
    (hbody : 12 + size.toNat ≤ buf.length) :
    Datagram.decode buf = .error fault ↔
      size.toNat % 8 ≠ 0 ∧ fault = .refused (.malformedIdSet size.toNat) ∨
      size.toNat % 8 = 0 ∧
        ∃ id, IdSet.firstRepeat? ∅
            (IdSet.words (size.toNat / 8) ((buf.drop 12).take size.toNat)) = some id ∧
          fault = .refused (.duplicateId id) := by
  have hdeclared : Layout.bodyLength ⟨12, .sized 2⟩ (buf.take 12) = .ok size.toNat := by
    rw [Layout.bodyLength_sized (by decide) (by omega), hsize]
    rfl
  obtain ⟨frame, hframe, hframeBody, hdecode⟩ :=
    Datagram.decode_of_complete hkind rfl hdeclared hbody
  change frame.body = (buf.drop 12).take size.toNat at hframeBody
  have hlength : frame.body.length = size.toNat := by
    rw [hframeBody]
    exact ObjectRequest.length_payload hbody
  have hids : Datagram.ofFrame .objectRequest frame = .error fault ↔ _ :=
    Datagram.ofFrame_objectRequest_eq_error_iff hframe
  rw [hlength, hframeBody] at hids
  rw [hdecode, ← hids]
  cases Datagram.ofFrame .objectRequest frame with
  | ok d => simp [Except.map]
  | error fault' => simp [Except.map]

/-- A byte string in the table is refused as its row says. -/
theorem decode_eq (h : Refused buf reason) :
    Datagram.decode buf = .error (.refused reason) := by
  cases h with
  | empty => exact Datagram.decode_nil
  | unsupportedType hcode =>
    exact Datagram.decode_of_no_layout (Kind.layout?_ofCode_eq_none_iff.mpr hcode) _
  | shortHeader hkind hlayout hshort => exact Datagram.decode_of_short_header hkind hlayout hshort
  | @shortFinalId _ flag hkind hheader hflag hpresent hshort =>
    have hdeclared : Layout.bodyLength ⟨10, .flagged 1⟩ (buf.take 10) = .ok 8 := by
      rw [Layout.bodyLength_flagged (by decide) hheader, hflag]
      exact congrArg Except.ok (if_pos hpresent)
    have havailable : 10 + (buf.length - 10) = buf.length := by omega
    rw [Datagram.decode_of_short_body hkind rfl hheader hdeclared hshort, Layout.shortage,
      havailable]
  | @shortPayload _ kind headerLength position size hkind hlayout hheader hsize hshort =>
    have hreach := Kind.reach_le_headerLength hlayout
    have hdeclared : Layout.bodyLength ⟨headerLength, .sized position⟩ (buf.take headerLength) =
        .ok size.toNat := by
      rw [Layout.bodyLength_sized hreach hheader, hsize]
      rfl
    have hcut : buf.length < headerLength + size.toNat := by omega
    exact Datagram.decode_of_short_body hkind hlayout hheader hdeclared hcut
  | malformedIdSet hkind hsize hbody hcut =>
    exact (decode_eq_of_objectRequest hkind hsize hbody).mpr (.inl ⟨hcut, rfl⟩)
  | @duplicateId _ size earlier later id hkind hsize hbody hids hfirst hrepeat =>
    obtain ⟨hwhole, hwords⟩ := (ObjectRequest.payload_eq_flatMap_iff hbody).mp hids
    refine (decode_eq_of_objectRequest hkind hsize hbody).mpr (.inr ⟨hwhole, id, ?_, rfl⟩)
    exact IdSet.firstRepeat?_empty_eq_some_iff.mpr ⟨earlier, later, hwords, hfirst, hrepeat⟩

/-- A body that is cut short is in the table, by its size field or by the final id that is
announced. -/
theorem exists_of_short_body {kind : Kind} {layout : Layout} {declared : Nat}
    (hkind : Kind.peek? buf = some kind) (hlayout : kind.layout? = some layout)
    (hheader : layout.headerLength ≤ buf.length)
    (hbody : layout.bodyLength (buf.take layout.headerLength) = .ok declared)
    (hshort : buf.length < layout.headerLength + declared) : ∃ reason, Refused buf reason := by
  obtain ⟨headerLength, extent⟩ := layout
  change headerLength ≤ buf.length at hheader
  change buf.length < headerLength + declared at hshort
  have hreach := Kind.reach_le_headerLength hlayout
  cases extent with
  | fixed =>
    cases hbody
    omega
  | sized position =>
    rw [Layout.bodyLength_sized hreach hheader] at hbody
    obtain ⟨size, hsize, rfl⟩ := map_eq_ok_iff.mp hbody
    exact ⟨_, .shortPayload hkind hlayout hheader hsize (by omega)⟩
  | flagged position =>
    rw [Layout.bodyLength_flagged hreach hheader] at hbody
    obtain ⟨flag, hflag, rfl⟩ := map_eq_ok_iff.mp hbody
    obtain ⟨rfl, rfl, rfl⟩ := Kind.eq_of_layout?_flagged hlayout
    split at hshort
    · next hpresent => exact ⟨_, .shortFinalId hkind hheader hflag hpresent hshort⟩
    · omega

/-- A complete object request that is not read is in the table, for its size or for its ids. -/
theorem exists_of_objectRequest {declared : Nat} {fault : Fault}
    (hkind : Kind.peek? buf = some .objectRequest) (hheader : 12 ≤ buf.length)
    (hdeclared : Layout.bodyLength ⟨12, .sized 2⟩ (buf.take 12) = .ok declared)
    (hbody : 12 + declared ≤ buf.length) (h : Datagram.decode buf = .error fault) :
    ∃ reason, Refused buf reason := by
  rw [Layout.bodyLength_sized (by decide) hheader] at hdeclared
  obtain ⟨size, hsize, rfl⟩ := map_eq_ok_iff.mp hdeclared
  rcases (decode_eq_of_objectRequest hkind hsize hbody).mp h with
    ⟨hcut, -⟩ | ⟨hwhole, id, hrepeat, -⟩
  · exact ⟨_, .malformedIdSet hkind hsize hbody hcut⟩
  · obtain ⟨earlier, later, hwords, hfirst, hid⟩ :=
      IdSet.firstRepeat?_empty_eq_some_iff.mp hrepeat
    have hids := (ObjectRequest.payload_eq_flatMap_iff hbody).mpr ⟨hwhole, hwords⟩
    exact ⟨_, .duplicateId hkind hsize hbody hids hfirst hid⟩

end Refused

namespace Datagram

/-- A byte string is read, or it is in the table. -/
theorem accepted_or_refused (buf : Bytes) :
    (∃ d n, decode buf = .ok (d, n)) ∨ ∃ reason, Refused buf reason := by
  cases buf with
  | nil => exact .inr ⟨_, .empty⟩
  | cons code bs =>
    have hkind : Kind.peek? (code :: bs) = some (Kind.ofCode code) := rfl
    cases hlayout : (Kind.ofCode code).layout? with
    | none => exact .inr ⟨_, .unsupportedType (Kind.layout?_ofCode_eq_none_iff.mp hlayout)⟩
    | some layout =>
      cases Kind.progress hlayout (code :: bs) with
      | inHeader hshort => exact .inr ⟨_, .shortHeader hkind hlayout hshort⟩
      | inBody declared hheader hbody hshort =>
        exact .inr (Refused.exists_of_short_body hkind hlayout hheader hbody hshort)
      | complete declared hbody hlong =>
        obtain ⟨frame, hframe, -, hdecode⟩ := decode_of_complete hkind hlayout hbody hlong
        rcases ofFrame_outcome hframe with ⟨d, hd⟩ | ⟨hobject, reason, hreason, -⟩
        · rw [hd] at hdecode
          exact .inl ⟨d, frame.length, hdecode⟩
        · rw [hreason] at hdecode
          rw [hobject] at hkind hlayout
          cases hlayout
          exact .inr (Refused.exists_of_objectRequest hkind (Nat.le_of_add_right_le hlong) hbody
            hlong hdecode)

/-- The decoder fails exactly on the byte strings in the table, and with the reason that stands
there: no other error is ever returned. -/
theorem decode_eq_error_iff_refused (buf : Bytes) (fault : Fault) :
    decode buf = .error fault ↔ ∃ reason, fault = .refused reason ∧ Refused buf reason := by
  constructor
  · intro h
    rcases accepted_or_refused buf with ⟨d, n, hread⟩ | ⟨reason, hrefused⟩
    · cases hread.symm.trans h
    · cases hrefused.decode_eq.symm.trans h
      exact ⟨reason, rfl, hrefused⟩
  · rintro ⟨reason, rfl, hrefused⟩
    exact hrefused.decode_eq

end Datagram

end TopicWire
