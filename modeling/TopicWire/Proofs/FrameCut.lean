import TopicWire.Frame
import TopicWire.Proofs.FieldPlacement

/-!
# Cutting a frame off a byte string

A frame fits a layout when its header has the length of the layout and its body the length that the
header tells (`Frame.Fits`). `Frame.read` succeeds exactly if such a frame lies at the front, and
then yields that frame (`Frame.read_eq_ok_iff`). An outcome is `Decided` unless it is a refusal for
want of bytes, and a decided reading is the same however many bytes follow (`Frame.read_append`).
Both rest on one equation for each of the four ways in which a reading can end.
-/

set_option autoImplicit false
set_option relaxedAutoImplicit false

namespace TopicWire

/-- An outcome that does not wait for bytes: a success, or a fault that more bytes cannot lift. -/
def Decided {α : Type} (outcome : Except Fault α) : Prop :=
  ∀ fault, outcome = .error fault → fault.isTruncation = false

/-- A success is decided. -/
theorem decided_ok {α : Type} (a : α) : Decided (.ok a) := by
  intro fault h
  cases h

/-- An outcome that is not decided is a refusal for want of bytes. -/
theorem exists_truncation_of_not_decided {α : Type} {outcome : Except Fault α}
    (h : ¬ Decided outcome) :
    ∃ reason : ProtocolError,
      outcome = .error (.refused reason) ∧ reason.isTruncation = true := by
  cases outcome with
  | ok a => exact absurd (decided_ok a) h
  | error fault =>
    cases htruncation : fault.isTruncation with
    | false =>
      refine absurd (fun fault' hfault ↦ ?_) h
      cases hfault
      exact htruncation
    | true =>
      cases fault with
      | refused reason => exact ⟨reason, rfl, htruncation⟩
      | outOfBounds access => cases htruncation

/-- The report of a body cut short is one for want of bytes, whatever the layout. -/
theorem Layout.isTruncation_shortage (layout : Layout) (kind : Kind) (declared available : Nat) :
    (layout.shortage kind declared available).isTruncation = true := by
  unfold shortage
  split <;> rfl

/-- The first bytes are fewer than asked for exactly if all the bytes are. -/
theorem Bytes.length_take_lt_iff {bs : Bytes} {count : Nat} :
    (bs.take count).length < count ↔ bs.length < count := by
  rw [List.length_take]
  omega

namespace Frame

/-- The bytes of a frame, in wire order. -/
def bytes (frame : Frame) : Bytes := frame.header ++ frame.body

theorem length_bytes (frame : Frame) : frame.bytes.length = frame.length :=
  List.length_append

/-- A frame at the front of a byte string is as many of its first bytes as the frame is long. -/
theorem take_length_eq {frame : Frame} {buf : Bytes} (h : frame.bytes <+: buf) :
    buf.take frame.length = frame.bytes := by
  rw [← length_bytes]
  exact (List.prefix_iff_eq_take.mp h).symm

/-- A frame as a layout has it. -/
structure Fits (layout : Layout) (frame : Frame) : Prop where
  length_header : frame.header.length = layout.headerLength
  bodyLength_header : layout.bodyLength frame.header = .ok frame.body.length

/-! What it takes to fit, for each rule that tells the length of a body. -/

section Fits

variable {headerLength position : Nat} {frame : Frame}

theorem fits_fixed_iff :
    Fits ⟨headerLength, .fixed⟩ frame ↔
      frame.header.length = headerLength ∧ frame.body = [] := by
  constructor
  · rintro ⟨hheader, hbody⟩
    rw [Layout.bodyLength, Except.ok.injEq] at hbody
    exact ⟨hheader, List.eq_nil_of_length_eq_zero hbody.symm⟩
  · rintro ⟨hheader, hbody⟩
    exact ⟨hheader, by rw [Layout.bodyLength, hbody, List.length_nil]⟩

theorem fits_sized_iff :
    Fits ⟨headerLength, .sized position⟩ frame ↔
      frame.header.length = headerLength ∧
        ∃ size, Field.u16At frame.header position = .ok size ∧
          size.toNat = frame.body.length := by
  constructor
  · rintro ⟨hheader, hbody⟩
    exact ⟨hheader, map_eq_ok_iff.mp hbody⟩
  · rintro ⟨hheader, hbody⟩
    exact ⟨hheader, map_eq_ok_iff.mpr hbody⟩

theorem fits_flagged_iff :
    Fits ⟨headerLength, .flagged position⟩ frame ↔
      frame.header.length = headerLength ∧
        ∃ flag, Field.u8At frame.header position = .ok flag ∧
          (if Flag.has flag .finalIdPresent then 8 else 0) = frame.body.length := by
  constructor
  · rintro ⟨hheader, hbody⟩
    exact ⟨hheader, map_eq_ok_iff.mp hbody⟩
  · rintro ⟨hheader, hbody⟩
    exact ⟨hheader, map_eq_ok_iff.mpr hbody⟩

end Fits

/-- A complete frame of a kind: it starts with the byte of the kind and fits the kind's layout. -/
structure IsFrameOf (kind : Kind) (frame : Frame) : Prop where
  head : frame.header.head? = some kind.code
  fits : ∃ layout, kind.layout? = some layout ∧ Fits layout frame

section Read

variable {kind : Kind} {layout : Layout} {buf : Bytes}

/-! ### The four ways in which a reading can end -/

theorem read_of_short_header (h : buf.length < layout.headerLength) :
    read kind layout buf = .error (.refused (.truncated kind layout.headerLength buf.length)) := by
  rw [read, if_pos (Bytes.length_take_lt_iff.mpr h)]

theorem read_of_outOfBounds {access : OutOfBounds} (hheader : layout.headerLength ≤ buf.length)
    (hbody : layout.bodyLength (buf.take layout.headerLength) = .error access) :
    read kind layout buf = .error (.outOfBounds access) := by
  have hlong := mt Bytes.length_take_lt_iff.mp (Nat.not_lt.mpr hheader)
  rw [read, if_neg hlong, hbody]

theorem read_of_short_body {declared : Nat} (hheader : layout.headerLength ≤ buf.length)
    (hbody : layout.bodyLength (buf.take layout.headerLength) = .ok declared)
    (hshort : buf.length < layout.headerLength + declared) :
    read kind layout buf =
      .error (.refused (layout.shortage kind declared (buf.length - layout.headerLength))) := by
  have hlong := mt Bytes.length_take_lt_iff.mp (Nat.not_lt.mpr hheader)
  have hcut : (buf.drop layout.headerLength).length < declared := by
    rw [List.length_drop]
    omega
  simp only [read, if_neg hlong, hbody, if_pos (Bytes.length_take_lt_iff.mpr hcut)]

theorem read_of_complete {declared : Nat}
    (hbody : layout.bodyLength (buf.take layout.headerLength) = .ok declared)
    (hcomplete : layout.headerLength + declared ≤ buf.length) :
    read kind layout buf =
      .ok ⟨buf.take layout.headerLength, (buf.drop layout.headerLength).take declared⟩ := by
  have hheader : ¬ buf.length < layout.headerLength := by omega
  have hlong := mt Bytes.length_take_lt_iff.mp hheader
  have hwhole : ¬ (buf.drop layout.headerLength).length < declared := by
    rw [List.length_drop]
    omega
  simp only [read, if_neg hlong, hbody, if_neg (mt Bytes.length_take_lt_iff.mp hwhole)]

/-! ### What is read -/

/-- A reading that succeeds finds a frame that fits at the front. -/
theorem fits_of_read {frame : Frame} (h : read kind layout buf = .ok frame) :
    Fits layout frame ∧ frame.bytes <+: buf := by
  by_cases hheader : buf.length < layout.headerLength
  · rw [read_of_short_header hheader] at h
    cases h
  · rw [Nat.not_lt] at hheader
    cases hbody : layout.bodyLength (buf.take layout.headerLength) with
    | error access =>
      rw [read_of_outOfBounds hheader hbody] at h
      cases h
    | ok declared =>
      by_cases hshort : buf.length < layout.headerLength + declared
      · rw [read_of_short_body hheader hbody hshort] at h
        cases h
      · rw [Nat.not_lt] at hshort
        rw [read_of_complete hbody hshort] at h
        cases h
        have hlength : ((buf.drop layout.headerLength).take declared).length = declared := by
          rw [List.length_take, List.length_drop]
          omega
        refine ⟨⟨List.length_take_of_le hheader, ?_⟩, ?_⟩
        · rw [hbody, hlength]
        · rw [bytes, ← List.take_add]
          exact List.take_prefix _ _

/-- A frame that fits is found at the front of any byte string that starts with it. -/
theorem read_bytes_append {frame : Frame} (hfits : Fits layout frame) (tail : Bytes) :
    read kind layout (frame.bytes ++ tail) = .ok frame := by
  have htake : (frame.bytes ++ tail).take layout.headerLength = frame.header := by
    rw [bytes, List.append_assoc, List.take_left' hfits.length_header]
  have hdrop : (frame.bytes ++ tail).drop layout.headerLength = frame.body ++ tail := by
    rw [bytes, List.append_assoc, List.drop_left' hfits.length_header]
  have hbody := hfits.bodyLength_header
  rw [← htake] at hbody
  have hlength : layout.headerLength + frame.body.length ≤ (frame.bytes ++ tail).length := by
    rw [List.length_append, length_bytes, Frame.length, hfits.length_header]
    exact Nat.le_add_right _ _
  rw [read_of_complete hbody hlength, htake, hdrop, List.take_left]

/-- Reading yields exactly the frame that fits and lies at the front. -/
theorem read_eq_ok_iff {frame : Frame} :
    read kind layout buf = .ok frame ↔ Fits layout frame ∧ frame.bytes <+: buf := by
  constructor
  · exact fits_of_read
  · rintro ⟨hfits, tail, rfl⟩
    exact read_bytes_append hfits tail

/-- A decided reading is not changed by the bytes that follow. -/
theorem read_append (h : Decided (read kind layout buf)) (tail : Bytes) :
    read kind layout (buf ++ tail) = read kind layout buf := by
  by_cases hheader : buf.length < layout.headerLength
  · cases h _ (read_of_short_header hheader)
  · rw [Nat.not_lt] at hheader
    have htake : (buf ++ tail).take layout.headerLength = buf.take layout.headerLength :=
      List.take_append_of_le_length hheader
    have hlonger : layout.headerLength ≤ (buf ++ tail).length := by
      rw [List.length_append]
      omega
    cases hbody : layout.bodyLength (buf.take layout.headerLength) with
    | error access =>
      rw [read_of_outOfBounds hheader hbody, read_of_outOfBounds hlonger (htake ▸ hbody)]
    | ok declared =>
      by_cases hshort : buf.length < layout.headerLength + declared
      · have hdecided := h _ (read_of_short_body hheader hbody hshort)
        rw [Fault.isTruncation, Layout.isTruncation_shortage] at hdecided
        cases hdecided
      · rw [Nat.not_lt] at hshort
        obtain ⟨frame, hread⟩ : ∃ frame, read kind layout buf = .ok frame :=
          ⟨_, read_of_complete hbody hshort⟩
        obtain ⟨hfits, rest, hrest⟩ := fits_of_read hread
        rw [hread, ← hrest, List.append_assoc]
        exact read_bytes_append hfits _

end Read

end Frame

end TopicWire
