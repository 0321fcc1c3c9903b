import TopicWire.Proofs.DecodeGrammar

/-!
# Constructors take what the wire carries

The limit on a payload stands in three places: constructors refuse what is too long, writers put the
length in a field of 16 bits, and readers take as many bytes as that field says. `MeetsWire` says of
a constructor that the three agree: it succeeds exactly if some byte string is read as a datagram
with the fields it is given, and the size field of what it builds is the length. A body that some
frame carries is one that a size field can declare (`Datagram.length_le_of_spells`), and the size
field of a written form is the length of its body (`Datagram.exists_size_wire`). The constructors
from a payload are one family (`MeetsWire.of_payload`); an object request checks the bytes of its
ids, so its limit on ids is the number of whole ids below the limit on bytes.
-/

set_option autoImplicit false
set_option relaxedAutoImplicit false

namespace TopicWire

/-- Bytes that follow do not change the word at a position. -/
theorem Field.u16At_append {buf : Bytes} {position : Nat} {value : UInt16}
    (h : u16At buf position = .ok value) (tail : Bytes) :
    u16At (buf ++ tail) position = .ok value := by
  rw [u16At_eq_ok_iff] at h ⊢
  rw [List.drop_append]
  exact h.trans (List.prefix_append _ _)

/-- A constructor whose limit is that of the wire. `Has` says which datagrams have the fields that
the constructor is given, and `body` is what they have to carry. -/
structure MeetsWire (kind : Kind) (Has : Datagram → Prop) (body : Bytes)
    (built : Except ProtocolError Datagram) : Prop where
  /-- It succeeds exactly if some byte string is read as a datagram with these fields. -/
  ok_iff_read : (∃ d, built = .ok d) ↔ ∃ buf d n, Datagram.decode buf = .ok (d, n) ∧ Has d
  /-- It succeeds exactly if some complete frame of the kind has this body. -/
  ok_iff_framed : (∃ d, built = .ok d) ↔ ∃ frame, Frame.IsFrameOf kind frame ∧ frame.body = body
  /-- What it builds has these fields. -/
  has : ∀ d, built = .ok d → Has d
  /-- What it refuses is too long, by its exact length. -/
  too_large : ∀ reason, built = .error reason →
    65535 < body.length ∧ reason = .payloadTooLarge body.length 65535
  /-- The size field of what it builds is the length, as it is written. -/
  size_exact : ∀ d, built = .ok d → ∃ headerLength position size,
    kind.layout? = some ⟨headerLength, .sized position⟩ ∧
      Field.u16At d.wire position = .ok size ∧ size.toNat = body.length

namespace Datagram

variable {headerLength position : Nat}

/-- A body that spells a datagram is no longer than a size field can declare. -/
theorem length_le_of_spells {d : Datagram} {fields : List Word} {body : Bytes}
    (hlayout : d.kind.layout? = some ⟨headerLength, .sized position⟩)
    (h : Spells d fields body) : body.length ≤ maxPayloadLength := by
  obtain ⟨-, size, -, hsize⟩ := h.isFrameOf.of_sized hlayout
  exact Payload.length_le_of_size hsize

/-- The size field of a written form is the length of the body. -/
theorem exists_size_wire {d : Datagram}
    (hlayout : d.kind.layout? = some ⟨headerLength, .sized position⟩) :
    ∃ size, Field.u16At d.wire position = .ok size ∧ size.toNat = d.bodyLength := by
  obtain ⟨fields, body, hspells, hwire⟩ := wireForm_wire d
  obtain ⟨-, size, hat, hsize⟩ := hspells.isFrameOf.of_sized hlayout
  rw [hwire]
  exact ⟨size, Field.u16At_append hat body, hsize.trans hspells.length_body⟩

end Datagram

/-- The limit of a constructor is that of the wire if it refuses exactly what is too long. Assumes:
datagrams with the given fields are of a kind with a size field, and their body is the given one. -/
theorem MeetsWire.of_limit {kind : Kind} {headerLength position : Nat} {Has : Datagram → Prop}
    {body : Bytes} {built : Except ProtocolError Datagram}
    (hlayout : kind.layout? = some ⟨headerLength, .sized position⟩)
    (hspells : ∀ d, Has d → d.kind = kind ∧ ∃ fields, Spells d fields body)
    (hok : body.length ≤ maxPayloadLength → ∃ d, built = .ok d ∧ Has d)
    (herror : ¬ body.length ≤ maxPayloadLength →
      built = .error (.payloadTooLarge body.length maxPayloadLength)) :
    MeetsWire kind Has body built := by
  have hlength : (∃ d, built = .ok d) → body.length ≤ maxPayloadLength := by
    rintro ⟨d, hd⟩
    by_cases hle : body.length ≤ maxPayloadLength
    · exact hle
    · cases hd.symm.trans (herror hle)
  have hhas : ∀ d, built = .ok d → Has d := by
    intro d hd
    obtain ⟨d', hd', h⟩ := hok (hlength ⟨d, hd⟩)
    cases hd'.symm.trans hd
    exact h
  refine ⟨⟨?_, ?_⟩, ⟨?_, ?_⟩, hhas, ?_, ?_⟩
  · rintro ⟨d, hd⟩
    exact ⟨_, d, _, Datagram.decode_append_of_wireForm (Datagram.wireForm_wire d) [], hhas d hd⟩
  · rintro ⟨-, d, -, -, h⟩
    obtain ⟨rfl, fields, hfields⟩ := hspells d h
    obtain ⟨d', hd', -⟩ := hok (Datagram.length_le_of_spells hlayout hfields)
    exact ⟨d', hd'⟩
  · rintro ⟨d, hd⟩
    obtain ⟨rfl, fields, hfields⟩ := hspells d (hhas d hd)
    exact ⟨_, hfields.isFrameOf, rfl⟩
  · rintro ⟨frame, hframe, rfl⟩
    obtain ⟨-, size, -, hsize⟩ := hframe.of_sized hlayout
    obtain ⟨d, hd, -⟩ := hok (Payload.length_le_of_size hsize)
    exact ⟨d, hd⟩
  · intro reason hreason
    by_cases hle : body.length ≤ maxPayloadLength
    · obtain ⟨d, hd, -⟩ := hok hle
      cases hd.symm.trans hreason
    · cases (herror hle).symm.trans hreason
      exact ⟨Nat.lt_of_not_le hle, rfl⟩
  · intro d hd
    obtain ⟨rfl, fields, hfields⟩ := hspells d (hhas d hd)
    obtain ⟨size, hat, hsize⟩ := Datagram.exists_size_wire hlayout
    exact ⟨headerLength, position, size, hlayout, hat, hsize.trans hfields.length_body.symm⟩

/-- The constructors that make a datagram of a payload and other fields. Assumes: the datagrams that
are made are of a kind with a size field, and their body is the payload. -/
theorem MeetsWire.of_payload {kind : Kind} {headerLength position : Nat}
    (make : Payload → Datagram)
    (hlayout : kind.layout? = some ⟨headerLength, .sized position⟩)
    (hspells : ∀ p, (make p).kind = kind ∧ ∃ fields, Spells (make p) fields p.bytes)
    (body : Bytes) :
    MeetsWire kind (fun d ↦ ∃ p, d = make p ∧ p.bytes = body) body
      ((Payload.ofBytes body).map make) := by
  refine .of_limit hlayout ?_ ?_ ?_
  · rintro _ ⟨p, rfl, rfl⟩
    exact hspells p
  · intro hle
    have hp : Payload.ofBytes body = .ok ⟨body, hle⟩ := dif_pos hle
    rw [hp]
    exact ⟨_, rfl, ⟨body, hle⟩, rfl, rfl⟩
  · intro hlong
    rw [Payload.ofBytes, dif_neg hlong]
    rfl

namespace ObjectRequest

variable (action : ObjectAction) (objectId : UInt64) (topicIds : IdSet)

/-- A request is written with its ids as the body. -/
theorem spells_encode (request : ObjectRequest) :
    Spells (.objectRequest request) [.u8 request.action.code, .u16 request.size,
      .u64 request.objectId] request.topicIds.encode := by
  refine .objectRequest request _ _ request.topicIds.ids (ObjectAction.ofCode_code _) (.refl _) ?_
  rw [request.toNat_size, IdSet.length_flatMap_ofUInt64]
  rfl

/-- The constructor of an object request takes the sets of ids that the wire carries. -/
theorem meetsWire :
    MeetsWire .objectRequest
      (fun d ↦ ∃ request, d = .objectRequest request ∧ request.action = action ∧
        request.objectId = objectId ∧ request.topicIds = topicIds)
      topicIds.encode ((ofTopics action objectId topicIds).map .objectRequest) := by
  refine .of_limit rfl ?_ ?_ ?_
  · rintro _ ⟨request, rfl, rfl, rfl, rfl⟩
    exact ⟨rfl, _, request.spells_encode⟩
  · intro hle
    rw [IdSet.length_encode] at hle
    refine ⟨_, ?_, ⟨action, objectId, topicIds, hle⟩, rfl, rfl, rfl, rfl⟩
    rw [ofTopics, dif_pos hle]
    rfl
  · intro hlong
    rw [IdSet.length_encode] at hlong ⊢
    rw [ofTopics, dif_neg hlong]
    rfl

/-- The limit on ids is the number of whole ids below the limit on bytes. -/
theorem exists_ofTopics_iff :
    (∃ request, ofTopics action objectId topicIds = .ok request) ↔ topicIds.size ≤ 8191 := by
  have hlimit : IdSet.encodedLength topicIds.size ≤ maxPayloadLength ↔ topicIds.size ≤ 8191 := by
    rw [IdSet.encodedLength, maxPayloadLength]
    omega
  rw [← hlimit, ofTopics]
  split
  · next hle => exact iff_of_true ⟨_, rfl⟩ hle
  · next hlong =>
    refine iff_of_false ?_ hlong
    rintro ⟨_, hrequest⟩
    cases hrequest

end ObjectRequest

/-- The limits of all constructors that have one are those of the wire. Each succeeds exactly if
some byte string is read as a datagram with the fields it is given, and exactly if some frame
carries what is to be its body; it refuses the rest with the exact length, and the size field of
what it builds is written without loss. For an object request this is a limit of 8191 ids. -/
theorem constructors_meet_wire (sequence : UInt32) (topicId objectId : UInt64) (bytes : Bytes)
    (text : String) (response : TopicResponse) (flag : Flag) (action : ObjectAction)
    (topicIds : IdSet) :
    MeetsWire .data (fun d ↦ ∃ p, d = .data ⟨sequence, topicId, p⟩ ∧ p.bytes = bytes) bytes
        ((Data.ofBytes sequence topicId bytes).map .data) ∧
      MeetsWire .connectNack (fun d ↦ ∃ p, d = .connectNack ⟨p⟩ ∧ p.bytes = bytes) bytes
        ((ConnectNack.ofBytes bytes).map .connectNack) ∧
      MeetsWire .topicRequestNack
        (fun d ↦ ∃ p, d = .topicRequestNack ⟨response, p⟩ ∧ p.bytes = Text.Utf8.encode text)
        (Text.Utf8.encode text) ((TopicRequestNack.ofText response text).map .topicRequestNack) ∧
      MeetsWire .objectRequestNack
        (fun d ↦ ∃ p, d = .objectRequestNack ⟨flag ||| Flag.failed, objectId, p⟩ ∧
          p.bytes = Text.Utf8.encode text)
        (Text.Utf8.encode text)
        ((ObjectRequestNack.ofText flag objectId text).map .objectRequestNack) ∧
      MeetsWire .objectRequest
        (fun d ↦ ∃ request, d = .objectRequest request ∧ request.action = action ∧
          request.objectId = objectId ∧ request.topicIds = topicIds)
        topicIds.encode
        ((ObjectRequest.ofTopics action objectId topicIds).map .objectRequest) ∧
      ((∃ request, ObjectRequest.ofTopics action objectId topicIds = .ok request) ↔
        topicIds.size ≤ 8191) := by
  refine ⟨?_, ?_, ?_, ?_, ObjectRequest.meetsWire action objectId topicIds,
    ObjectRequest.exists_ofTopics_iff action objectId topicIds⟩
  · rw [Data.ofBytes, map_map]
    exact .of_payload (fun p ↦ .data ⟨sequence, topicId, p⟩) rfl
      (fun p ↦ ⟨rfl, _, .data ⟨sequence, topicId, p⟩ _ p.toNat_size⟩) bytes
  · rw [ConnectNack.ofBytes, map_map]
    exact .of_payload (fun p ↦ .connectNack ⟨p⟩) rfl
      (fun p ↦ ⟨rfl, _, .connectNack ⟨p⟩ _ p.toNat_size⟩) bytes
  · rw [TopicRequestNack.ofText, Payload.ofText, map_map]
    exact .of_payload (fun p ↦ .topicRequestNack ⟨response, p⟩) rfl
      (fun p ↦ ⟨rfl, _, .topicRequestNack ⟨response, p⟩ _ _ (TopicResponse.ofCode_code _)
        p.toNat_size⟩) _
  · rw [ObjectRequestNack.ofText, Payload.ofText, map_map]
    exact .of_payload (fun p ↦ .objectRequestNack ⟨flag ||| Flag.failed, objectId, p⟩) rfl
      (fun p ↦ ⟨rfl, _, .objectRequestNack ⟨flag ||| Flag.failed, objectId, p⟩ _
        p.toNat_size⟩) _

end TopicWire
