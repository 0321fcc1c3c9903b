import Mathlib.Algebra.GroupWithZero.Nat
import Mathlib.Tactic.SplitIfs
import TopicWire.Buffer
import TopicWire.Proofs.FieldPlacement

/-!
# Words appended and words read

`Field.Inverts` says that a reader of words and the step that appends one are inverse to each other:
what is appended is read where the buffer ended, what is read is appended as the bytes it was read
from, and the reader refuses exactly what does not fit. The widths on the wire share one argument
(`Field.inverts_of_spelling`), which asks of a width only that words are spelled in so many bytes.

Positions are machine words in a running program, and the end of a field may lie beyond the last of
them. `Field.stop?` is the sum that notices when it wraps around, and with it the check of bounds is
the one on numbers (`Field.exists_stop_iff`), so that what is read with this check is what is read
without it (`Field.bytesWithin_eq`).
-/

set_option autoImplicit false
set_option relaxedAutoImplicit false

namespace TopicWire.Field

/-! ### The end of a field in machine words -/

/-- The position so many bytes further on, unless it is more than a machine word can hold: a sum
that wraps around is below what was added to. -/
def stop? (position width : UInt64) : Option UInt64 :=
  let stop := position + width
  if stop < position then none else some stop

theorem stop?_eq_some_iff {position width stop : UInt64} :
    stop? position width = some stop ↔ stop.toNat = position.toNat + width.toNat := by
  have hposition := position.toNat_lt
  have hwidth := width.toNat_lt
  have hstop := stop.toNat_lt
  simp only [stop?, UInt64.lt_iff_toNat_lt, UInt64.toNat_add]
  split_ifs with hwraps
  · simp only [false_iff]
    omega
  · rw [Option.some_inj, ← UInt64.toNat_inj, UInt64.toNat_add]
    omega

/-- A field ends within a byte string exactly if its end is a machine word and no more than the
length. Assumes: a length that a machine word can hold. -/
theorem exists_stop_iff {position width : UInt64} {length : Nat} (h : length < 2 ^ 64) :
    (∃ stop, stop? position width = some stop ∧ stop ≤ UInt64.ofNat length) ↔
      position.toNat + width.toNat ≤ length := by
  have hlength : (UInt64.ofNat length).toNat = length := by
    rw [UInt64.toNat_ofNat', Nat.mod_eq_of_lt h]
  simp only [stop?_eq_some_iff, UInt64.le_iff_toNat_le, hlength]
  constructor
  · rintro ⟨stop, hstop, hle⟩
    omega
  · intro hle
    refine ⟨UInt64.ofNat (position.toNat + width.toNat), ?_, ?_⟩ <;>
      rw [UInt64.toNat_ofNat', Nat.mod_eq_of_lt (Nat.lt_of_le_of_lt hle h)]
    exact hle

/-- The bytes at a position, with their bounds checked in machine words. -/
def bytesWithin (width : UInt64) (buf : Bytes) (position : UInt64) : Except OutOfBounds Bytes :=
  match stop? position width with
  | none => .error ⟨width.toNat, position.toNat, buf.length⟩
  | some stop =>
    if stop ≤ UInt64.ofNat buf.length then .ok ((buf.take stop.toNat).drop position.toNat)
    else .error ⟨width.toNat, position.toNat, buf.length⟩

/-- To check bounds in machine words changes nothing. Assumes: a length that a machine word can
hold. -/
theorem bytesWithin_eq {buf : Bytes} (h : buf.length < 2 ^ 64) (width position : UInt64) :
    bytesWithin width buf position = bytesAt width.toNat buf position.toNat := by
  have hfits : (∃ stop, stop? position width = some stop ∧ stop ≤ UInt64.ofNat buf.length) ↔
      position.toNat + width.toNat ≤ buf.length := exists_stop_iff h
  unfold bytesWithin bytesAt
  cases hstop : stop? position width with
  | none =>
    simp only [hstop, reduceCtorEq, false_and, exists_false, false_iff] at hfits
    rw [if_neg hfits]
  | some stop =>
    simp only [hstop, Option.some_inj, exists_eq_left'] at hfits
    simp only [hfits, stop?_eq_some_iff.mp hstop, List.drop_take, Nat.add_sub_cancel_left]

/-! ### Bytes at a position -/

section Bytes

variable {width position start stop : Nat} {buf bs : Bytes} {access : OutOfBounds}

theorem bytesAt_eq_error_iff :
    bytesAt width buf position = .error access ↔
      buf.length < position + width ∧ access = ⟨width, position, buf.length⟩ := by
  unfold bytesAt
  split_ifs with hfits
  · simp only [false_iff]
    omega
  · rw [Except.error.injEq, eq_comm]
    exact (and_iff_right (Nat.lt_of_not_le hfits)).symm

/-- Bytes that follow do not change what lies before them. -/
theorem bytesAt_append (h : position + width ≤ buf.length) (tail : Bytes) :
    bytesAt width (buf ++ tail) position = bytesAt width buf position := by
  have hlonger : position + width ≤ (buf ++ tail).length := by
    rw [List.length_append]
    omega
  have hwidth : width ≤ (buf.drop position).length := by
    rw [List.length_drop]
    omega
  rw [bytesAt, bytesAt, if_pos h, if_pos hlonger, List.drop_append_of_le_length (by omega),
    List.take_append_of_le_length hwidth]

/-- The bytes of a field are those from its position to its end. -/
theorem subrange_eq_ok_of_bytesAt (h : bytesAt width buf position = .ok bs) :
    subrange buf position (position + width) = .ok bs := by
  unfold bytesAt at h
  split_ifs at h with hfits
  rw [subrange, if_pos ⟨Nat.le_add_right _ _, hfits⟩, Nat.add_sub_cancel_left]
  exact h

theorem subrange_eq_error_iff :
    subrange buf start stop = .error access ↔
      (stop < start ∨ buf.length < stop) ∧ access = ⟨stop - start, start, buf.length⟩ := by
  unfold subrange
  split_ifs with hfits
  · simp only [false_iff]
    omega
  · rw [Except.error.injEq, eq_comm]
    exact (and_iff_right (by omega)).symm

/-- The bytes of a range are those that stand between the ones before it and the ones after it. -/
theorem subrange_eq_ok_iff :
    subrange buf start stop = .ok bs ↔
      ∃ before after, buf = before ++ bs ++ after ∧ before.length = start ∧
        before.length + bs.length = stop := by
  unfold subrange
  constructor
  · intro h
    split_ifs at h with hfits
    cases h
    refine ⟨buf.take start, buf.drop stop, ?_, ?_, ?_⟩
    · have hstop : buf.drop stop = (buf.drop start).drop (stop - start) := by
        rw [List.drop_drop, Nat.add_sub_cancel' hfits.1]
      rw [hstop, List.append_assoc, List.take_append_drop, List.take_append_drop]
    · rw [List.length_take]
      omega
    · rw [List.length_take, List.length_take, List.length_drop]
      omega
  · rintro ⟨before, after, rfl, rfl, rfl⟩
    have hfits : before.length ≤ before.length + bs.length ∧
        before.length + bs.length ≤ (before ++ bs ++ after).length := by
      rw [List.length_append, List.length_append]
      omega
    rw [if_pos hfits, List.append_assoc, List.drop_left, Nat.add_sub_cancel_left, List.take_left]

end Bytes

/-! ### Reading and appending words -/

/-- A reader of words of so many bytes and the step that appends a word are inverse to each
other. -/
structure Inverts {ω : Type} (width : Nat) (read : Bytes → Nat → Except OutOfBounds ω)
    (push : ω → Write) : Prop where
  /-- A word is read where the buffer ended before it, whatever is written after it. -/
  read_push : ∀ (growth : Growth) (b : Buffer) (value : ω) (later : List Write),
    read ((b.write growth (push value)).writeAll growth later).bytes b.length = .ok value
  /-- Whatever is written, the words that were there before are read as before. -/
  read_writeAll : ∀ (growth : Growth) (b : Buffer) (steps : List Write) (position : Nat),
    position + width ≤ b.length → read (b.writeAll growth steps).bytes position =
      read b.bytes position
  /-- Where a word fits one is read, and appending it to an empty buffer gives the bytes there. -/
  push_read : ∀ (growth : Growth) (buf : Bytes) (position : Nat), position + width ≤ buf.length →
    ∃ value, read buf position = .ok value ∧
      subrange buf position (position + width) = .ok (Buffer.empty.write growth (push value)).bytes
  /-- Exactly an access that ends beyond the last byte is refused, and it is what is reported. -/
  error_iff : ∀ (buf : Bytes) (position : Nat) (access : OutOfBounds),
    read buf position = .error access ↔
      buf.length < position + width ∧ access = ⟨width, position, buf.length⟩
  /-- The same is refused where positions are machine words: no sum that wraps around is taken for
  an end. -/
  stop_iff : ∀ (buf : Bytes) (position : UInt64), buf.length < 2 ^ 64 →
    ((∃ access, read buf position.toNat = .error access) ↔
      ¬ ∃ stop, stop? position (.ofNat width) = some stop ∧ stop ≤ UInt64.ofNat buf.length)

/-- The one argument behind the words of all widths. Assumes: words are spelled in so many bytes,
and such bytes spell the word that they are the spelling of. -/
theorem inverts_of_spelling {ω : Type} {width : Nat} {spell : ω → Bytes} {read : Bytes → ω}
    (hpos : 0 < width) (hword : width < 2 ^ 64) (hlength : ∀ value, (spell value).length = width)
    (hread : ∀ value, read (spell value) = value)
    (hspell : ∀ bs : Bytes, bs.length = width → spell (read bs) = bs) :
    Inverts width (fun buf position ↦ (bytesAt width buf position).map read)
      (fun value ↦ .append (spell value)) := by
  have herror : ∀ (buf : Bytes) (position : Nat) (access : OutOfBounds),
      (bytesAt width buf position).map read = .error access ↔
        buf.length < position + width ∧ access = ⟨width, position, buf.length⟩ := by
    intro buf position access
    rw [← bytesAt_eq_error_iff]
    cases bytesAt width buf position <;> simp [Except.map]
  refine ⟨?_, ?_, ?_, herror, ?_⟩
  · intro growth b value later
    rw [map_bytesAt_eq_ok_iff hpos hlength hread hspell, Buffer.bytes_writeAll,
      Buffer.bytes_write, List.append_assoc, ← Buffer.length_bytes, List.drop_left]
    exact List.prefix_append _ _
  · intro growth b steps position hfits
    rw [← Buffer.length_bytes] at hfits
    rw [Buffer.bytes_writeAll, bytesAt_append hfits]
  · intro growth buf position hfits
    obtain ⟨bs, hbs⟩ : ∃ bs, bytesAt width buf position = .ok bs := ⟨_, if_pos hfits⟩
    have hwidth := ((bytesAt_eq_ok_iff hpos).mp hbs).1
    refine ⟨read bs, by rw [hbs]; rfl, ?_⟩
    rw [subrange_eq_ok_of_bytesAt hbs, Buffer.bytes_write]
    exact congrArg Except.ok (hspell bs hwidth).symm
  · intro buf position hbuf
    have hofNat : (UInt64.ofNat width).toNat = width := by
      rw [UInt64.toNat_ofNat', Nat.mod_eq_of_lt hword]
    rw [exists_stop_iff hbuf, hofNat, Nat.not_le]
    simp only [herror, exists_and_left, exists_eq, and_true]

/-- Words are read as they were appended and appended as they were read. For the words of two, four
and eight bytes alike, whatever a buffer holds and whatever comes after: a word that is appended is
read at the place where the buffer ended, and all that was there before is read as before. A word
that is read gives back the bytes it was read from, and no word is refused but for ending beyond the
last byte; a reader that reckons in machine words answers the same. A range of bytes is those bytes
in order, and is refused only for being reversed or for ending beyond the last byte. -/
theorem words_inverse :
    Inverts 2 u16At Write.u16 ∧ Inverts 4 u32At Write.u32 ∧ Inverts 8 u64At Write.u64 ∧
      (∀ (growth : Growth) (b : Buffer) (steps : List Write),
        b.bytes <+: (b.writeAll growth steps).bytes) ∧
      (∀ (width position : UInt64) (buf : Bytes), buf.length < 2 ^ 64 →
        bytesWithin width buf position = bytesAt width.toNat buf position.toNat) ∧
      ∀ (buf : Bytes) (start stop : Nat),
        (∀ bs, subrange buf start stop = .ok bs ↔
          ∃ before after, buf = before ++ bs ++ after ∧ before.length = start ∧
            before.length + bs.length = stop) ∧
        ∀ access, subrange buf start stop = .error access ↔
          (stop < start ∨ buf.length < stop) ∧ access = ⟨stop - start, start, buf.length⟩ := by
  refine ⟨?_, ?_, ?_, ?_, fun width position buf h ↦ bytesWithin_eq h width position,
    fun buf start stop ↦ ⟨fun bs ↦ subrange_eq_ok_iff, fun access ↦ subrange_eq_error_iff⟩⟩
  · exact inverts_of_spelling (by omega) (by omega) Bytes.length_ofUInt16 Bytes.toUInt16_ofUInt16
      fun _ ↦ Bytes.ofUInt16_toUInt16
  · exact inverts_of_spelling (by omega) (by omega) Bytes.length_ofUInt32 Bytes.toUInt32_ofUInt32
      fun _ ↦ Bytes.ofUInt32_toUInt32
  · exact inverts_of_spelling (by omega) (by omega) Bytes.length_ofUInt64 Bytes.toUInt64_ofUInt64
      fun _ ↦ Bytes.ofUInt64_toUInt64
  · intro growth b steps
    rw [Buffer.bytes_writeAll]
    exact List.prefix_append _ _

end TopicWire.Field
