import TopicWire.Proofs.DecodeGrammar

/-!
# The canonical form

Of all the forms in which a datagram may come in, one is written. It differs from the form that was
read at two places only (`Settles`): the byte of a coded field that no member claims becomes the one
kept for the unknown member, and the ids of an object request come in ascending order. A form is
written back as it was exactly if it is canonical in both (`Settles.eq_iff`), and what is written is
canonical, so to read it and write it again changes nothing (`Datagram.encode_of_decode`).
-/

set_option autoImplicit false
set_option relaxedAutoImplicit false

namespace TopicWire

/-! ### The byte of a coded field -/

namespace Coded

variable {α : Type} [Coded α]

/-- The codes that the members of a coded set claim. -/
def codes (α : Type) [Coded α] : List UInt8 := (members : List α).map code

/-- The code of the member that a byte is read as is the byte itself if a member claims it, else
that of the unknown member. -/
theorem code_ofCode (byte : UInt8) :
    code (ofCode byte : α) = if byte ∈ codes α then byte else code (unknown : α) := by
  unfold ofCode
  cases hfind : (members : List α).find? fun x : α ↦ code x == byte with
  | none =>
    have hnone : byte ∉ codes α := by
      intro hmem
      obtain ⟨x, hx, hcode⟩ := List.mem_map.mp hmem
      exact List.find?_eq_none.mp hfind x hx (beq_iff_eq.mpr hcode)
    rw [if_neg hnone]
    rfl
  | some x =>
    have hclaims := List.find?_some hfind
    have hcode : code x = byte := eq_of_beq hclaims
    have hmem : byte ∈ codes α := List.mem_map.mpr ⟨x, List.mem_of_find?_eq_some hfind, hcode⟩
    rw [if_pos hmem]
    exact hcode

end Coded

namespace Kind

/-- The codes that the coded field of a kind may be written with, if the kind has such a field. It
is the byte after that of the kind. -/
def codes? : Kind → Option (List UInt8)
  | shutdown => some (Coded.codes EndReason)
  | topicRequest => some (Coded.codes TopicAction)
  | topicRequestAck | topicRequestNack => some (Coded.codes TopicResponse)
  | objectRequest => some (Coded.codes ObjectAction)
  | _ => none

/-- The second byte of a form as it is written: 0xAA in the place of a code that is not assigned,
else the byte itself. -/
def settled (kind : Kind) (byte : UInt8) : UInt8 :=
  match kind.codes? with
  | some codes => if byte ∈ codes then byte else 0xAA
  | none => byte

theorem settled_of_no_codes {kind : Kind} (h : kind.codes? = none) (byte : UInt8) :
    kind.settled byte = byte := by
  rw [settled, h]

/-- To read the byte of a coded field and write it again settles it. Assumes: the unknown member of
the set has the code 0xAA. -/
theorem settled_of_codes {kind : Kind} (α : Type) [Coded α]
    (h : kind.codes? = some (Coded.codes α)) (hunknown : Coded.code (Coded.unknown : α) = 0xAA)
    (byte : UInt8) : kind.settled byte = Coded.code (Coded.ofCode byte : α) := by
  rw [settled, h, Coded.code_ofCode, hunknown]

/-- A byte is settled already exactly if it is a code to write the field with. -/
theorem settled_eq_self_iff {kind : Kind} {codes : List UInt8} {byte : UInt8}
    (h : kind.codes? = some codes) : kind.settled byte = byte ↔ byte ∈ codes := by
  have hunknown : 0xAA ∈ codes := by
    cases kind <;> cases h <;> decide
  rw [settled, h]
  constructor
  · intro hsettled
    by_cases hmem : byte ∈ codes
    · exact hmem
    · simp only [if_neg hmem] at hsettled
      exact hsettled ▸ hunknown
  · intro hmem
    simp only [if_pos hmem]

end Kind

/-! ### Read form and written form -/

/-- How the written form of a datagram differs from the one it was read from. -/
structure Settles (kind : Kind) (form written : Bytes) : Prop where
  length_eq : written.length = form.length
  /-- All but the second byte, and the ids of an object request, is kept. -/
  kept : ∀ i, i ≠ 1 → (kind = .objectRequest → i < 12) → written[i]? = form[i]?
  /-- The second byte is settled, if there is one. -/
  second : written[1]? = form[1]?.map kind.settled
  /-- The ids of an object request are put in order. -/
  ids : kind = .objectRequest → ∃ ids : List UInt64, ids.Nodup ∧
    form.drop 12 = ids.flatMap Bytes.ofUInt64 ∧
    written.drop 12 = (ids.mergeSort (· ≤ ·)).flatMap Bytes.ofUInt64

/-- A form whose coded field holds an assigned code, or 0xAA, and whose ids ascend. -/
structure IsCanonical (kind : Kind) (form : Bytes) : Prop where
  code_mem : ∀ codes byte, kind.codes? = some codes → form[1]? = some byte → byte ∈ codes
  ascending : kind = .objectRequest → ∀ ids : List UInt64,
    form.drop 12 = ids.flatMap Bytes.ofUInt64 → ids.Pairwise (· < ·)

namespace IdSet

theorem pairwise_mergeSort (ids : List UInt64) : (ids.mergeSort (· ≤ ·)).Pairwise (· ≤ ·) := by
  have htrans : ∀ a b c : UInt64, decide (a ≤ b) = true → decide (b ≤ c) = true →
      decide (a ≤ c) = true := by
    intro a b c hab hbc
    exact decide_eq_true (UInt64.le_trans (of_decide_eq_true hab) (of_decide_eq_true hbc))
  have htotal : ∀ a b : UInt64, (decide (a ≤ b) || decide (b ≤ a)) = true := by
    intro a b
    rcases UInt64.le_total a b with h | h <;> simp [h]
  exact (List.pairwise_mergeSort htrans htotal ids).imp of_decide_eq_true

/-- Sorting the ids of a set, in whatever order they came, gives its ascending list. -/
theorem mergeSort_eq_ids {ids : List UInt64} {s : IdSet} (h : ids.Perm s.ids) :
    ids.mergeSort (· ≤ ·) = s.ids := by
  have hids : s.ids.Pairwise (· ≤ ·) := s.ascending.imp UInt64.le_of_lt
  exact ((ids.mergeSort_perm _).trans h).eq_of_pairwise (fun _ _ _ _ ↦ UInt64.le_antisymm)
    (pairwise_mergeSort ids) hids

/-- Distinct ids are unchanged by sorting exactly if they ascend. -/
theorem mergeSort_eq_self_iff {ids : List UInt64} (h : ids.Nodup) :
    ids.mergeSort (· ≤ ·) = ids ↔ ids.Pairwise (· < ·) := by
  constructor
  · intro hsort
    have hle := pairwise_mergeSort ids
    rw [hsort] at hle
    exact (hle.and h).imp fun ⟨hle, hne⟩ ↦ UInt64.lt_of_le_of_ne hle hne
  · intro hlt
    exact List.mergeSort_of_pairwise (hlt.imp fun h ↦ decide_eq_true (UInt64.le_of_lt h))

end IdSet

namespace Settles

variable {kind : Kind} {form written : Bytes}

/-- A form whose kind has neither a coded field nor ids is written as it is. -/
theorem of_eq (hcodes : kind.codes? = none) (h : written = form) : Settles kind form written := by
  subst h
  have hkind : kind ≠ .objectRequest := by
    rintro rfl
    cases hcodes
  refine ⟨rfl, fun _ _ _ ↦ rfl, ?_, fun h ↦ absurd h hkind⟩
  cases written[1]? with
  | none => rfl
  | some byte => rw [Option.map_some, Kind.settled_of_no_codes hcodes]

/-- A form whose kind has a coded field, but no ids, is written with the settled byte. -/
theorem of_second (hkind : kind ≠ .objectRequest) (first byte : UInt8) (rest : Bytes) :
    Settles kind (first :: byte :: rest) (first :: kind.settled byte :: rest) := by
  refine ⟨rfl, fun i hi _ ↦ ?_, rfl, fun h ↦ absurd h hkind⟩
  match i with
  | 0 => rfl
  | i + 2 => rfl

/-- An object request is written with the settled byte and its ids in order. -/
theorem of_ids (first byte : UInt8) (fields : Bytes) {ids : List UInt64}
    (hfields : fields.length = 10) (hids : ids.Nodup) :
    Settles .objectRequest (first :: byte :: (fields ++ ids.flatMap Bytes.ofUInt64))
      (first :: Kind.objectRequest.settled byte ::
        (fields ++ (ids.mergeSort (· ≤ ·)).flatMap Bytes.ofUInt64)) := by
  have hlength : ((ids.mergeSort (· ≤ ·)).flatMap Bytes.ofUInt64).length =
      (ids.flatMap Bytes.ofUInt64).length := by
    rw [IdSet.length_flatMap_ofUInt64, IdSet.length_flatMap_ofUInt64, List.length_mergeSort]
  refine ⟨?_, fun i hi hheader ↦ ?_, rfl, fun _ ↦ ⟨ids, hids, ?_, ?_⟩⟩
  · simp only [List.length_cons, List.length_append, hlength]
  · match i with
    | 0 => rfl
    | i + 2 =>
      have hi : i < fields.length := by
        have := hheader rfl
        omega
      show (fields ++ _)[i]? = (fields ++ _)[i]?
      rw [List.getElem?_append_left hi, List.getElem?_append_left hi]
  · exact List.drop_left' hfields
  · exact List.drop_left' hfields

/-- A form is written as it is exactly if it is canonical. -/
theorem eq_iff (h : Settles kind form written) : written = form ↔ IsCanonical kind form := by
  constructor
  · rintro rfl
    refine ⟨fun codes byte hcodes hbyte ↦ ?_, fun hkind ids hform ↦ ?_⟩
    · have hsecond := h.second
      rw [hbyte, Option.map_some, Option.some_inj] at hsecond
      exact (Kind.settled_eq_self_iff hcodes).mp hsecond.symm
    · obtain ⟨ids', hnodup, hread, hwritten⟩ := h.ids hkind
      cases IdSet.eq_of_flatMap_ofUInt64_eq (hform.symm.trans hread)
      rw [hread] at hwritten
      exact (IdSet.mergeSort_eq_self_iff hnodup).mp
        (IdSet.eq_of_flatMap_ofUInt64_eq hwritten).symm
  · intro hcanonical
    apply List.ext_getElem?
    intro i
    by_cases hsecond : i = 1
    · subst i
      rw [h.second]
      cases hbyte : form[1]? with
      | none => rfl
      | some byte =>
        cases hcodes : kind.codes? with
        | none => rw [Option.map_some, Kind.settled_of_no_codes hcodes]
        | some codes =>
          have hmem := hcanonical.code_mem codes byte hcodes hbyte
          rw [Option.map_some, (Kind.settled_eq_self_iff hcodes).mpr hmem]
    · by_cases hid : kind = .objectRequest ∧ 12 ≤ i
      · obtain ⟨hkind, hi⟩ := hid
        obtain ⟨ids, hnodup, hread, hwritten⟩ := h.ids hkind
        have hsorted := (IdSet.mergeSort_eq_self_iff hnodup).mpr
          (hcanonical.ascending hkind ids hread)
        rw [hsorted, ← hread] at hwritten
        obtain ⟨j, rfl⟩ := Nat.exists_eq_add_of_le hi
        rw [← List.getElem?_drop, hwritten, List.getElem?_drop]
      · exact h.kept i hsecond fun hkind ↦ Nat.not_le.mp fun hi ↦ hid ⟨hkind, hi⟩

end Settles

/-! ### What is written -/

/-- A size field that declares the length of a payload is the one that is written. -/
theorem Payload.eq_size_of_toNat_eq {size : UInt16} {p : Payload}
    (h : size.toNat = p.bytes.length) : size = p.size :=
  UInt16.toNat_inj.mp (h.trans p.toNat_size.symm)

namespace Datagram

/-- What is written in the place of any form of a datagram is that form, settled. -/
theorem settles_wire {d : Datagram} {fields : List Word} {body : Bytes}
    (h : Spells d fields body) :
    Settles d.kind (Word.bytesOf (.u8 d.kind.code :: fields) ++ body) d.wire := by
  rw [wire_eq]
  cases h with
  | connect | serverStatus | heartbeat | heartbeatRequest => exact .of_eq rfl rfl
  | connectAck _ | serverStatusAck _ | ping _ | pong _ =>
    exact .of_eq rfl (List.append_nil _).symm
  | connectNack nack size hsize =>
    rw [Payload.eq_size_of_toNat_eq hsize]
    exact .of_eq rfl (congrArg _ (bytesOf_append_body [.u16 _] _))
  | shutdown notice code hcode =>
    have hsettled : Kind.shutdown.settled code = notice.reason.code := by
      rw [← hcode]
      exact Kind.settled_of_codes EndReason rfl rfl code
    rw [fieldWrites, ← hsettled]
    exact .of_second (by intro h; cases h) _ _ []
  | topicRequest request code hcode =>
    have hsettled : Kind.topicRequest.settled code = request.action.code := by
      rw [← hcode]
      exact Kind.settled_of_codes TopicAction rfl rfl code
    rw [fieldWrites, ← hsettled, List.append_nil]
    exact .of_second (by intro h; cases h) _ _ _
  | topicRequestAck ack code hcode =>
    have hsettled : Kind.topicRequestAck.settled code = ack.response.code := by
      rw [← hcode]
      exact Kind.settled_of_codes TopicResponse rfl rfl code
    rw [fieldWrites, ← hsettled, List.append_nil]
    exact .of_second (by intro h; cases h) _ _ _
  | topicRequestNack nack code size hcode hsize =>
    have hsettled : Kind.topicRequestNack.settled code = nack.response.code := by
      rw [← hcode]
      exact Kind.settled_of_codes TopicResponse rfl rfl code
    have hwritten : Write.bytesOf (topicRequestNack nack).fieldWrites =
        nack.response.code :: (Bytes.ofUInt16 size ++ nack.message.bytes) := by
      rw [Payload.eq_size_of_toNat_eq hsize]
      exact bytesOf_append_body [.u8 _, .u16 _] _
    rw [hwritten, ← hsettled]
    exact .of_second (by intro h; cases h) _ _ _
  | objectRequest request code size ids hcode hids hsize =>
    have hsettled : Kind.objectRequest.settled code = request.action.code := by
      rw [← hcode]
      exact Kind.settled_of_codes ObjectAction rfl rfl code
    have hlength : size = request.size := by
      apply UInt16.toNat_inj.mp
      rw [hsize, request.toNat_size, IdSet.length_flatMap_ofUInt64, hids.length_eq]
      rfl
    have hnodup : ids.Nodup := hids.nodup_iff.mpr request.topicIds.nodup_ids
    rw [bytesOf_fieldWrites_objectRequest, ← hsettled, ← hlength, ← IdSet.mergeSort_eq_ids hids]
    exact .of_ids _ _ (Word.bytesOf [.u16 size, .u64 request.objectId]) rfl hnodup
  | objectRequestAck ack hfinal =>
    rw [fieldWrites, ObjectRequestAck.wireFlag, hfinal]
    exact .of_eq rfl (List.append_nil _).symm
  | objectRequestAckFinal ack finalId hfinal =>
    rw [fieldWrites, ObjectRequestAck.wireFlag, hfinal]
    exact .of_eq rfl (congrArg _ (bytesOf_append_body [.u8 _, .u64 _] _))
  | objectRequestNack nack size hsize =>
    rw [Payload.eq_size_of_toNat_eq hsize]
    exact .of_eq rfl (congrArg _ (bytesOf_append_body [.u8 _, .u16 _, .u64 _] _))
  | data sample size hsize =>
    rw [Payload.eq_size_of_toNat_eq hsize]
    exact .of_eq rfl (congrArg _ (bytesOf_append_body [.u16 _, .u32 _, .u64 _] _))

/-- What is written is canonical. -/
theorem isCanonical_wire (d : Datagram) : IsCanonical d.kind d.wire := by
  obtain ⟨fields, body, hspells, hform⟩ := wireForm_wire d
  have hsettles := settles_wire hspells
  rw [← hform] at hsettles
  exact hsettles.eq_iff.mp rfl

/-- To write what was read puts it in canonical form. The written form is as long as what was read
and settles it, the two are the same exactly if what was read was canonical, and the written form is
read as the same datagram, so that to read and write it again changes nothing. -/
theorem encode_of_decode (growth : Growth) {buf : Bytes} {d : Datagram} {n : Nat}
    (h : decode buf = .ok (d, n)) :
    (d.encode growth).bytes.length = n ∧ d.encodedLength = n ∧
      Settles d.kind (buf.take n) (d.encode growth).bytes ∧
      ((d.encode growth).bytes = buf.take n ↔ IsCanonical d.kind (buf.take n)) ∧
      decode (d.encode growth).bytes = .ok (d, n) ∧
      ∀ d' n', decode (d.encode growth).bytes = .ok (d', n') →
        (d'.encode growth).bytes = (d.encode growth).bytes := by
  have hform := wireForm_of_decode h
  have hread : n = d.encodedLength := by
    rw [← hform.length_eq, List.length_take_of_le (consumed_le h)]
  have hwritten := (wireForm_wire d).length_eq
  obtain ⟨fields, body, hspells, hspelled⟩ := hform
  have hsettles : Settles d.kind (buf.take n) d.wire := by
    rw [hspelled]
    exact settles_wire hspells
  have hagain : decode d.wire = .ok (d, n) := by
    have hback := decode_append_of_wireForm (wireForm_wire d) []
    rwa [List.append_nil, hwritten, ← hread] at hback
  rw [bytes_encode]
  refine ⟨hwritten.trans hread.symm, hread.symm, hsettles, hsettles.eq_iff, hagain, ?_⟩
  intro d' n' h'
  cases hagain.symm.trans h'
  exact bytes_encode growth d

/-- An object request with an action that is not assigned and two ids in descending order is read,
but written with 0xAA and the ids in order. -/
theorem encode_of_decode_descending :
    decode (Word.bytesOf [.u8 Kind.objectRequest.code, .u8 7, .u16 16, .u64 9, .u64 2, .u64 1]) =
        .ok (.objectRequest ⟨.unknown, 9, ⟨[1, 2], by decide⟩, by decide⟩, 28) ∧
      (encode .doubling (.objectRequest ⟨.unknown, 9, ⟨[1, 2], by decide⟩, by decide⟩)).bytes =
        Word.bytesOf
          [.u8 Kind.objectRequest.code, .u8 0xAA, .u16 16, .u64 9, .u64 1, .u64 2] ∧
      ¬ IsCanonical .objectRequest
        (Word.bytesOf
          [.u8 Kind.objectRequest.code, .u8 7, .u16 16, .u64 9, .u64 2, .u64 1]) := by
  have hread : decode (Word.bytesOf
      [.u8 Kind.objectRequest.code, .u8 7, .u16 16, .u64 9, .u64 2, .u64 1]) =
        .ok (.objectRequest ⟨.unknown, 9, ⟨[1, 2], by decide⟩, by decide⟩, 28) := rfl
  obtain ⟨-, -, hsettles, hcanonical, -⟩ := encode_of_decode .doubling hread
  refine ⟨hread, rfl, fun h ↦ ?_⟩
  have hsecond := hsettles.second
  rw [hcanonical.mpr h] at hsecond
  cases hsecond

end Datagram

end TopicWire
