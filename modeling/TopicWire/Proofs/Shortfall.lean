import TopicWire.Proofs.RefusalOrder

/-!
# How many bytes are missing

A refusal for want of bytes carries two numbers, and their difference is the number of bytes that
are missing (`ProtocolError.deficit?`). The number is exact. With fewer bytes the refusal is the
same with the new count (`Datagram.decode_append_of_inHeader`, `Datagram.decode_append_of_inBody`).
With that many the header is complete, and if it was the body that was cut, the outcome is decided
(`Datagram.decided_append_of_inBody`). A receiver that waits for exactly the missing bytes waits at
most twice, once for the header and once for the body (`Datagram.deficit_exact`).
-/

set_option autoImplicit false
set_option relaxedAutoImplicit false

namespace TopicWire

/-! ### The numbers of a refusal -/

namespace ProtocolError

/-- The number of bytes that a refusal reports as missing. -/
def deficit? : ProtocolError → Option Nat
  | truncated _ expected actual => some (expected - actual)
  | lengthMismatch _ declared available => some (declared - available)
  | _ => none

/-- The refusal for the same want when `more` bytes have come and are not enough. -/
def after (more : Nat) : ProtocolError → ProtocolError
  | truncated kind expected actual => truncated kind expected (actual + more)
  | lengthMismatch kind declared available => lengthMismatch kind declared (available + more)
  | reason => reason

/-- What is missing belongs to the body: a payload is cut, or more is expected than a header. -/
def WantsBody : ProtocolError → Prop
  | truncated kind expected _ =>
    ∃ layout, kind.layout? = some layout ∧ layout.headerLength < expected
  | lengthMismatch .. => True
  | _ => False

/-- A refusal that reports missing bytes is one for want of bytes. -/
theorem isTruncation_of_deficit? {reason : ProtocolError} {deficit : Nat}
    (h : reason.deficit? = some deficit) : reason.isTruncation = true := by
  cases reason with
  | truncated kind expected actual => rfl
  | lengthMismatch kind declared available => rfl
  | _ => cases h

end ProtocolError

namespace Layout

variable (layout : Layout) (kind : Kind) (declared available : Nat)

/-- Whether a cut body is reported by itself or with the header, as many bytes are missing. -/
theorem deficit?_shortage :
    (layout.shortage kind declared available).deficit? = some (declared - available) := by
  unfold shortage
  cases layout.extent with
  | sized position => rfl
  | fixed | flagged position => exact congrArg some (Nat.add_sub_add_left _ _ _)

theorem after_shortage (more : Nat) :
    (layout.shortage kind declared available).after more =
      layout.shortage kind declared (available + more) := by
  unfold shortage
  cases layout.extent with
  | sized position => rfl
  | fixed | flagged position => rw [ProtocolError.after, Nat.add_assoc]

end Layout

namespace Datagram

/-! ### More bytes -/

section More

variable {buf : Bytes} {kind : Kind} {layout : Layout} {declared : Nat}

/-- The kind of a byte string is that of all that start with it. -/
theorem peek?_append (hkind : Kind.peek? buf = some kind) (more : Bytes) :
    Kind.peek? (buf ++ more) = some kind := by
  obtain ⟨code, bs, rfl, rfl⟩ := Kind.exists_of_peek? hkind
  rfl

/-- A header that is complete declares the same body whatever follows. -/
theorem bodyLength_append (hheader : layout.headerLength ≤ buf.length) (more : Bytes) :
    layout.bodyLength ((buf ++ more).take layout.headerLength) =
      layout.bodyLength (buf.take layout.headerLength) := by
  rw [List.take_append_of_le_length hheader]

/-- A header that is still cut is refused with the new count. -/
theorem decode_append_of_inHeader (hkind : Kind.peek? buf = some kind)
    (hlayout : kind.layout? = some layout) {more : Bytes}
    (hmore : buf.length + more.length < layout.headerLength) :
    decode (buf ++ more) =
      .error (.refused (.truncated kind layout.headerLength (buf.length + more.length))) := by
  rw [← List.length_append] at hmore ⊢
  exact decode_of_short_header (peek?_append hkind more) hlayout hmore

/-- A body that is still cut is refused with the new count. -/
theorem decode_append_of_inBody (hkind : Kind.peek? buf = some kind)
    (hlayout : kind.layout? = some layout) (hheader : layout.headerLength ≤ buf.length)
    (hbody : layout.bodyLength (buf.take layout.headerLength) = .ok declared) {more : Bytes}
    (hmore : buf.length + more.length < layout.headerLength + declared) :
    decode (buf ++ more) = .error (.refused
      (layout.shortage kind declared (buf.length - layout.headerLength + more.length))) := by
  have havailable : (buf ++ more).length - layout.headerLength =
      buf.length - layout.headerLength + more.length := by
    rw [List.length_append]
    omega
  rw [← List.length_append] at hmore
  rw [← bodyLength_append hheader more] at hbody
  rw [← havailable]
  refine decode_of_short_body (peek?_append hkind more) hlayout ?_ hbody hmore
  rw [List.length_append]
  omega

/-- A body that is no longer cut decides the outcome. -/
theorem decided_append_of_inBody (hkind : Kind.peek? buf = some kind)
    (hlayout : kind.layout? = some layout) (hheader : layout.headerLength ≤ buf.length)
    (hbody : layout.bodyLength (buf.take layout.headerLength) = .ok declared) {more : Bytes}
    (hmore : layout.headerLength + declared ≤ buf.length + more.length) :
    Decided (decode (buf ++ more)) := by
  rw [← List.length_append] at hmore
  rw [← bodyLength_append hheader more] at hbody
  exact decided_of_complete (peek?_append hkind more) hlayout hbody hmore

end More

/-! ### Waiting for what is missing -/

/-- Waiting ends: whatever the bytes that come, after so many rounds the outcome is decided. In each
round exactly as many bytes come as the refusal reports missing. -/
inductive SettlesWithin : Nat → Bytes → Prop where
  | decided {rounds : Nat} {buf : Bytes} (h : Decided (decode buf)) : SettlesWithin rounds buf
  | round {rounds : Nat} {buf : Bytes} {reason : ProtocolError} {deficit : Nat}
      (h : decode buf = .error (.refused reason)) (hdeficit : reason.deficit? = some deficit)
      (hnext : ∀ more : Bytes, more.length = deficit → SettlesWithin rounds (buf ++ more)) :
      SettlesWithin (rounds + 1) buf

/-- A byte string that holds its header settles in one round, and so in more. -/
theorem settlesWithin_succ {buf : Bytes} {kind : Kind} {layout : Layout}
    (hkind : Kind.peek? buf = some kind) (hlayout : kind.layout? = some layout)
    (hheader : layout.headerLength ≤ buf.length) (rounds : Nat) :
    SettlesWithin (rounds + 1) buf := by
  cases Kind.progress hlayout buf with
  | inHeader hshort => exact absurd hheader (Nat.not_le.mpr hshort)
  | inBody declared _ hbody hshort =>
    refine .round (decode_of_short_body hkind hlayout hheader hbody hshort)
      (layout.deficit?_shortage ..) fun more hmore ↦ .decided ?_
    exact decided_append_of_inBody hkind hlayout hheader hbody (by omega)
  | complete declared hbody hlong =>
    exact .decided (decided_of_complete hkind hlayout hbody hlong)

/-- A byte string that is not empty settles in two rounds: after the first one it holds its
header. -/
theorem settlesWithin_two {buf : Bytes} (hne : buf ≠ []) : SettlesWithin 2 buf := by
  obtain ⟨code, bs, rfl⟩ := List.exists_cons_of_ne_nil hne
  have hkind : Kind.peek? (code :: bs) = some (Kind.ofCode code) := rfl
  cases hlayout : (Kind.ofCode code).layout? with
  | none =>
    refine .decided fun fault h ↦ ?_
    rw [decode_of_no_layout hlayout] at h
    cases h
    rfl
  | some layout =>
    by_cases hshort : (code :: bs).length < layout.headerLength
    · refine .round (decode_of_short_header hkind hlayout hshort) rfl fun more hmore ↦ ?_
      have hheader : layout.headerLength ≤ (code :: bs ++ more).length := by
        rw [List.length_append]
        omega
      exact settlesWithin_succ (peek?_append hkind more) hlayout hheader 0
    · exact settlesWithin_succ hkind hlayout (Nat.not_lt.mp hshort) 1

/-- The reported number of missing bytes is exact. It is at least one. With fewer bytes the refusal
is the same, for the same kind and the same expectation, and counts the new bytes. With that many,
a cut body is no longer waited for. So a receiver that has any bytes and waits each time for exactly
those that are missing has a decided outcome after at most two rounds. -/
theorem deficit_exact (buf : Bytes) :
    (∀ reason deficit, decode buf = .error (.refused reason) → reason.deficit? = some deficit →
      1 ≤ deficit ∧
        (∀ more : Bytes, more.length < deficit →
          decode (buf ++ more) = .error (.refused (reason.after more.length))) ∧
        (reason.WantsBody →
          ∀ more : Bytes, deficit ≤ more.length → Decided (decode (buf ++ more)))) ∧
      (buf ≠ [] → SettlesWithin 2 buf) := by
  refine ⟨fun reason deficit h hdeficit ↦ ?_, settlesWithin_two⟩
  rcases cut_of_truncation h (ProtocolError.isTruncation_of_deficit? hdeficit) with
    rfl | ⟨kind, layout, hkind, hlayout, hshort | ⟨declared, hheader, hbody, hshort⟩⟩
  · cases h
    cases hdeficit
  · cases h.symm.trans (decode_of_short_header hkind hlayout hshort)
    cases hdeficit
    refine ⟨by omega, fun more hmore ↦ ?_, ?_⟩
    · exact decode_append_of_inHeader hkind hlayout (by omega)
    · -- The header itself is cut, and no more than a header is expected.
      rintro ⟨layout', hlayout', hbeyond⟩
      cases hlayout.symm.trans hlayout'
      exact absurd hbeyond (Nat.lt_irrefl _)
  · cases h.symm.trans (decode_of_short_body hkind hlayout hheader hbody hshort)
    cases (layout.deficit?_shortage ..).symm.trans hdeficit
    refine ⟨by omega, fun more hmore ↦ ?_, fun _ more hmore ↦ ?_⟩
    · rw [layout.after_shortage]
      exact decode_append_of_inBody hkind hlayout hheader hbody (by omega)
    · exact decided_append_of_inBody hkind hlayout hheader hbody (by omega)

/-- A refusal of a connection of which two message bytes are missing: one of them is not enough, two
are, and the byte of the kind alone settles in two rounds. -/
theorem deficit_exact_connectNack :
    decode [Kind.connectNack.code, 2, 0, 0x6E] =
        .error (.refused (.lengthMismatch .connectNack 2 1)) ∧
      (∀ more : Bytes, 1 ≤ more.length →
        Decided (decode ([Kind.connectNack.code, 2, 0, 0x6E] ++ more))) ∧
      SettlesWithin 2 [Kind.connectNack.code] := by
  have hread : decode [Kind.connectNack.code, 2, 0, 0x6E] =
      .error (.refused (.lengthMismatch .connectNack 2 1)) := rfl
  obtain ⟨-, -, hbody⟩ := (deficit_exact [Kind.connectNack.code, 2, 0, 0x6E]).1 _ _ hread rfl
  exact ⟨hread, hbody trivial, (deficit_exact [Kind.connectNack.code]).2 (List.cons_ne_nil _ _)⟩

end Datagram

end TopicWire
