import TopicWire.Datagram.Decode
import TopicWire.Proofs.FrameCut

/-!
# Decisions of the decoder are final

What the decoder has decided about the front of a byte string it says of every longer one
(`Datagram.decode_append`): a datagram that was read, and a refusal that is not for want of bytes,
do not depend on what follows. It accepts exactly when a complete frame of some kind lies at the
front and spells a datagram (`Datagram.decode_eq_ok_iff_frame`). Together they say that a proper
prefix of an accepted frame is neither accepted nor refused for good (`Datagram.decode_final`).
-/

set_option autoImplicit false
set_option relaxedAutoImplicit false

namespace TopicWire

namespace Kind

/-- A kind with a layout was named by its own code: only the unknown kind stands for others. -/
theorem code_ofCode {code : UInt8} {layout : Layout} (h : (ofCode code).layout? = some layout) :
    (ofCode code).code = code := by
  unfold ofCode Coded.ofCode at h ⊢
  cases hfind : (Coded.members : List Kind).find? fun kind ↦ Coded.code kind == code with
  | none =>
    rw [hfind] at h
    cases h
  | some kind =>
    have hclaims := List.find?_some hfind
    exact eq_of_beq hclaims

/-- A header holds at least the byte of the kind. -/
theorem headerLength_pos {kind : Kind} {layout : Layout} (h : kind.layout? = some layout) :
    0 < layout.headerLength := by
  cases kind <;> cases h <;> exact Nat.zero_lt_succ _

end Kind

namespace Frame

/-- A complete frame has at least one byte. -/
theorem IsFrameOf.length_pos {kind : Kind} {frame : Frame} (h : IsFrameOf kind frame) :
    0 < frame.length := by
  obtain ⟨-, layout, hlayout, hfits⟩ := h
  have hheader := Kind.headerLength_pos hlayout
  rw [Frame.length, hfits.length_header]
  omega

/-- A frame that is read off a byte string is one of the kind that the first byte names. -/
theorem isFrameOf_of_read {code : UInt8} {bs : Bytes} {layout : Layout} {frame : Frame}
    (hlayout : (Kind.ofCode code).layout? = some layout)
    (hread : read (Kind.ofCode code) layout (code :: bs) = .ok frame) :
    IsFrameOf (Kind.ofCode code) frame := by
  obtain ⟨hfits, tail, hbuf⟩ := read_eq_ok_iff.mp hread
  refine ⟨?_, layout, hlayout, hfits⟩
  have hpos := Kind.headerLength_pos hlayout
  rw [← hfits.length_header] at hpos
  obtain ⟨first, rest, hheader⟩ := List.exists_cons_of_length_pos hpos
  rw [bytes, hheader, List.cons_append, List.cons_append, List.cons.injEq] at hbuf
  rw [hheader, List.head?_cons, hbuf.1, Kind.code_ofCode hlayout]

end Frame

namespace Datagram

/-! ### The three ways in which a decoding starts -/

theorem decode_nil : decode [] = .error (.refused .empty) := rfl

/-- The first byte names the kind to decode as. -/
theorem decode_cons (code : UInt8) (bs : Bytes) :
    decode (code :: bs) = decodeAs (Kind.ofCode code) (code :: bs) := rfl

theorem decode_of_no_layout {code : UInt8} (h : (Kind.ofCode code).layout? = none) (bs : Bytes) :
    decode (code :: bs) = .error (.refused (.unsupportedType (Kind.ofCode code))) := by
  simp only [decode_cons, decodeAs, h]
  rfl

theorem decode_of_layout {code : UInt8} {layout : Layout}
    (h : (Kind.ofCode code).layout? = some layout) (bs : Bytes) :
    decode (code :: bs) = do
      let frame ← Frame.read (Kind.ofCode code) layout (code :: bs)
      let datagram ← ofFrame (Kind.ofCode code) frame
      return (datagram, frame.length) := by
  simp only [decode_cons, decodeAs, h]
  exact if_pos (Kind.code_ofCode h).symm

/-! ### Acceptance -/

/-- A complete frame at the front of a byte string decides what is read from it. -/
theorem decode_of_isFrameOf {kind : Kind} {frame : Frame} {buf : Bytes}
    (hframe : Frame.IsFrameOf kind frame) (hfront : frame.bytes <+: buf) :
    decode buf = (ofFrame kind frame).map fun d ↦ (d, frame.length) := by
  obtain ⟨hhead, layout, hlayout, hfits⟩ := hframe
  obtain ⟨rest, hheader⟩ := List.head?_eq_some_iff.mp hhead
  obtain ⟨tail, rfl⟩ := hfront
  have hread : Frame.read kind layout (frame.bytes ++ tail) = .ok frame :=
    Frame.read_bytes_append hfits tail
  have hbytes : frame.bytes ++ tail = kind.code :: (rest ++ frame.body ++ tail) := by
    rw [Frame.bytes, hheader]
    rfl
  rw [hbytes] at hread ⊢
  have hcode := Kind.ofCode_code kind
  rw [decode_of_layout (hcode ▸ hlayout), hcode, hread]
  show (do
    let datagram ← ofFrame kind frame
    return (datagram, frame.length)) = _
  cases ofFrame kind frame <;> rfl

/-- A datagram is read exactly if a complete frame that spells it lies at the front. -/
theorem decode_eq_ok_iff_frame {buf : Bytes} {d : Datagram} {n : Nat} :
    decode buf = .ok (d, n) ↔
      ∃ kind frame, Frame.IsFrameOf kind frame ∧ ofFrame kind frame = .ok d ∧
        frame.bytes <+: buf ∧ frame.length = n := by
  constructor
  · intro h
    cases buf with
    | nil =>
      rw [decode_nil] at h
      cases h
    | cons code bs =>
      cases hlayout : (Kind.ofCode code).layout? with
      | none =>
        rw [decode_of_no_layout hlayout] at h
        cases h
      | some layout =>
        rw [decode_of_layout hlayout] at h
        obtain ⟨frame, hread, h⟩ := bind_eq_ok_iff.mp h
        obtain ⟨datagram, hdatagram, h⟩ := bind_eq_ok_iff.mp h
        cases pure_eq_ok_iff.mp h
        exact ⟨_, frame, Frame.isFrameOf_of_read hlayout hread, hdatagram,
          (Frame.read_eq_ok_iff.mp hread).2, rfl⟩
  · rintro ⟨kind, frame, hframe, hdatagram, hprefix, rfl⟩
    rw [decode_of_isFrameOf hframe hprefix, hdatagram]
    rfl

section Accepted

variable {buf : Bytes} {d : Datagram} {n : Nat}

/-- A datagram occupies at least one byte. -/
theorem consumed_pos (h : decode buf = .ok (d, n)) : 1 ≤ n := by
  obtain ⟨kind, frame, hframe, -, -, rfl⟩ := decode_eq_ok_iff_frame.mp h
  exact hframe.length_pos

/-- A datagram occupies no more bytes than there are. -/
theorem consumed_le (h : decode buf = .ok (d, n)) : n ≤ buf.length := by
  obtain ⟨kind, frame, -, -, hprefix, rfl⟩ := decode_eq_ok_iff_frame.mp h
  rw [← Frame.length_bytes]
  exact hprefix.length_le

/-- The bytes that a datagram occupies decide it. -/
theorem decode_take (h : decode buf = .ok (d, n)) : decode (buf.take n) = .ok (d, n) := by
  obtain ⟨kind, frame, hframe, hdatagram, hprefix, rfl⟩ := decode_eq_ok_iff_frame.mp h
  have htake := Frame.take_length_eq hprefix
  exact decode_eq_ok_iff_frame.mpr
    ⟨kind, frame, hframe, hdatagram, htake ▸ List.prefix_rfl, rfl⟩

end Accepted

/-! ### What more bytes can change -/

/-- What has been decided about the front of a byte string is decided: the bytes that follow do not
change it. -/
theorem decode_append {buf : Bytes} (h : Decided (decode buf)) (tail : Bytes) :
    decode (buf ++ tail) = decode buf := by
  cases buf with
  | nil => cases h _ decode_nil
  | cons code bs =>
    rw [List.cons_append]
    cases hlayout : (Kind.ofCode code).layout? with
    | none => rw [decode_of_no_layout hlayout, decode_of_no_layout hlayout]
    | some layout =>
      have hread : Decided (Frame.read (Kind.ofCode code) layout (code :: bs)) := by
        intro fault hfault
        refine h fault ?_
        rw [decode_of_layout hlayout, hfault]
        rfl
      have hsame := Frame.read_append hread tail
      rw [List.cons_append] at hsame
      rw [decode_of_layout hlayout, decode_of_layout hlayout, hsame]

/-- A datagram that was read is read from every longer byte string. -/
theorem decode_append_of_ok {buf : Bytes} {d : Datagram} {n : Nat}
    (h : decode buf = .ok (d, n)) (tail : Bytes) : decode (buf ++ tail) = .ok (d, n) := by
  rw [← h]
  exact decode_append (h ▸ decided_ok _) tail

/-- A proper prefix of the bytes that a datagram occupies is refused for want of bytes. If it were
decided, the decision would be the one on the whole, which occupies more bytes than there are. -/
theorem decode_take_truncation {buf : Bytes} {d : Datagram} {n k : Nat}
    (h : decode buf = .ok (d, n)) (hk : k < n) :
    ∃ reason : ProtocolError,
      decode (buf.take k) = .error (.refused reason) ∧ reason.isTruncation = true := by
  apply exists_truncation_of_not_decided
  intro hdecided
  have hsame := decode_append hdecided (buf.drop k)
  rw [List.take_append_drop, h] at hsame
  have hle := consumed_le hsame.symm
  rw [List.length_take] at hle
  omega

/-- Decisions are final, and only complete frames are accepted. A datagram that was read occupies
at least one byte and no more than there are, is read from every byte string that starts with the
bytes it occupies, and is refused for want of bytes if any of these is missing at the end. A
refusal for another cause stays the same whatever bytes follow. -/
theorem decode_final (buf : Bytes) :
    (∀ d n, decode buf = .ok (d, n) →
      1 ≤ n ∧ n ≤ buf.length ∧
        (∀ other : Bytes, other.take n = buf.take n → decode other = .ok (d, n)) ∧
        ∀ k < n, ∃ reason : ProtocolError,
          decode (buf.take k) = .error (.refused reason) ∧ reason.isTruncation = true) ∧
      ∀ fault, decode buf = .error fault → fault.isTruncation = false →
        ∀ tail, decode (buf ++ tail) = .error fault := by
  constructor
  · intro d n h
    refine ⟨consumed_pos h, consumed_le h, fun other hother ↦ ?_,
      fun k hk ↦ decode_take_truncation h hk⟩
    rw [← List.take_append_drop n other, hother]
    exact decode_append_of_ok (decode_take h) _
  · intro fault h hfinal tail
    have hdecided : Decided (decode buf) := by
      intro fault' h'
      cases h.symm.trans h'
      exact hfinal
    rw [decode_append hdecided, h]

/-- A probe with a byte after it is accepted for good, and a byte that names no kind is refused for
good. -/
theorem decode_final_ping_and_unknown :
    (∀ other : Bytes, other.take 2 = [Kind.ping.code, 7] → decode other = .ok (.ping ⟨7⟩, 2)) ∧
      ∀ tail, decode ([Kind.unknown.code] ++ tail) =
        .error (.refused (.unsupportedType .unknown)) := by
  have haccepted : decode [Kind.ping.code, 7, 1] = .ok (.ping ⟨7⟩, 2) := rfl
  have hrefused : decode [Kind.unknown.code] = .error (.refused (.unsupportedType .unknown)) := rfl
  refine ⟨?_, (decode_final [Kind.unknown.code]).2 _ hrefused rfl⟩
  obtain ⟨-, -, hother, -⟩ := (decode_final [Kind.ping.code, 7, 1]).1 _ _ haccepted
  exact hother

end Datagram

end TopicWire
