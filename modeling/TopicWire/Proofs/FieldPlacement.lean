import Mathlib.Algebra.Group.Nat.Defs
import TopicWire.Field

/-!
# Words laid end to end

A header is a run of fixed-width words with nothing in between. `Word` is one such word with its
bytes, and `Word.ReadAt` says that the reader of its width finds it at a position. The two agree
(`Word.readAt_iff`): a word is read at a position exactly if its bytes lie there. Over a whole run,
a byte string is the concatenation of the words exactly if each of them is read where the ones
before it end and the string ends with the last (`Word.eq_bytesOf_iff`). Decoders read at fixed
offsets and encoders append, so this is the one fact that relates the two for every layout.

The first section holds the rules for chains of steps that may fail.
-/

set_option autoImplicit false
set_option relaxedAutoImplicit false

namespace TopicWire

/-! ### Steps that may fail -/

section Outcome

variable {ε ε' α β γ : Type}

@[simp] theorem ok_bind {a : α} {next : α → Except ε β} :
    (Except.ok a : Except ε α) >>= next = next a := rfl

@[simp] theorem error_bind {e : ε} {next : α → Except ε β} :
    (Except.error e : Except ε α) >>= next = .error e := rfl

/-- A chain of two steps succeeds exactly if both do. -/
theorem bind_eq_ok_iff {first : Except ε α} {next : α → Except ε β} {b : β} :
    first >>= next = .ok b ↔ ∃ a, first = .ok a ∧ next a = .ok b := by
  cases first with
  | error e =>
    constructor
    · intro h
      cases h
    · rintro ⟨a, ha, -⟩
      cases ha
  | ok a =>
    constructor
    · intro h
      exact ⟨a, rfl, h⟩
    · rintro ⟨a', ha, h⟩
      cases ha
      exact h

/-- A step that only wraps its result succeeds exactly if the step inside does. -/
theorem map_eq_ok_iff {step : Except ε α} {f : α → β} {b : β} :
    step.map f = .ok b ↔ ∃ a, step = .ok a ∧ f a = b := by
  cases step with
  | error e => simp [Except.map]
  | ok a => simp [Except.map]

/-- To wrap a result twice is to wrap it once. -/
theorem map_map (step : Except ε α) (f : α → β) (g : β → γ) :
    (step.map f).map g = step.map (g ∘ f) := by
  cases step <;> rfl

/-- Renaming the failures of a step leaves its successes alone. -/
@[simp] theorem mapError_eq_ok_iff {step : Except ε α} {f : ε → ε'} {a : α} :
    step.mapError f = .ok a ↔ step = .ok a := by
  cases step with
  | error e =>
    constructor
    · intro h
      cases h
    · intro h
      cases h
  | ok a' =>
    change (Except.ok a' : Except ε' α) = .ok a ↔ _
    rw [Except.ok.injEq, Except.ok.injEq]

/-- A chain of two steps fails exactly if the first fails or the second does after it. -/
theorem bind_eq_error_iff {first : Except ε α} {next : α → Except ε β} {e : ε} :
    first >>= next = .error e ↔ first = .error e ∨ ∃ a, first = .ok a ∧ next a = .error e := by
  cases first with
  | error e' =>
    constructor
    · intro h
      cases h
      exact .inl rfl
    · rintro (h | ⟨a, ha, -⟩)
      · cases h
        rfl
      · cases ha
  | ok a =>
    constructor
    · intro h
      exact .inr ⟨a, rfl, h⟩
    · rintro (h | ⟨a', ha, h⟩)
      · cases h
      · cases ha
        exact h

/-- A step whose failures are renamed fails exactly if the step does. -/
theorem mapError_eq_error_iff {step : Except ε α} {f : ε → ε'} {e' : ε'} :
    step.mapError f = .error e' ↔ ∃ e, step = .error e ∧ f e = e' := by
  cases step with
  | error e =>
    change (Except.error (f e) : Except ε' α) = .error e' ↔ _
    simp
  | ok a =>
    change (Except.ok a : Except ε' α) = .error e' ↔ _
    simp

@[simp] theorem pure_eq_ok_iff {a b : α} : (pure a : Except ε α) = .ok b ↔ a = b :=
  Except.ok.injEq a b ▸ Iff.rfl

end Outcome

/-! ### One word at a position -/

namespace Bytes

@[simp] theorem length_ofUInt16 (value : UInt16) : (ofUInt16 value).length = 2 :=
  length_ofNatLE 2 value.toNat

@[simp] theorem length_ofUInt32 (value : UInt32) : (ofUInt32 value).length = 4 :=
  length_ofNatLE 4 value.toNat

@[simp] theorem length_ofUInt64 (value : UInt64) : (ofUInt64 value).length = 8 :=
  length_ofNatLE 8 value.toNat

/-- The number that a byte string spells is below the bound that its length sets. -/
theorem toNatLE_lt (bs : Bytes) : toNatLE bs < 256 ^ bs.length := by
  induction bs with
  | nil => simp [toNatLE]
  | cons b bs ih =>
    have hb : b.toNat < 256 := b.toNat_lt
    rw [toNatLE, List.length_cons, Nat.pow_succ]
    omega

/-- Two bytes are those of the 16-bit word they spell. -/
theorem ofUInt16_toUInt16 {bs : Bytes} (h : bs.length = 2) : ofUInt16 (toUInt16 bs) = bs := by
  have hlt := toNatLE_lt bs
  rw [h] at hlt
  rw [ofUInt16, toUInt16, UInt16.toNat_ofNat_of_lt' hlt, ← h, ofNatLE_toNatLE]

/-- Four bytes are those of the 32-bit word they spell. -/
theorem ofUInt32_toUInt32 {bs : Bytes} (h : bs.length = 4) : ofUInt32 (toUInt32 bs) = bs := by
  have hlt := toNatLE_lt bs
  rw [h] at hlt
  rw [ofUInt32, toUInt32, UInt32.toNat_ofNat_of_lt' hlt, ← h, ofNatLE_toNatLE]

/-- Eight bytes are those of the 64-bit word they spell. -/
theorem ofUInt64_toUInt64 {bs : Bytes} (h : bs.length = 8) : ofUInt64 (toUInt64 bs) = bs := by
  have hlt := toNatLE_lt bs
  rw [h] at hlt
  rw [ofUInt64, toUInt64, UInt64.toNat_ofNat_of_lt' hlt, ← h, ofNatLE_toNatLE]

end Bytes

namespace Field

/-- The bytes at a position are the given ones exactly if these lie there. A width of zero is left
out: nothing lies beyond the end, but to read nothing there is refused. -/
theorem bytesAt_eq_ok_iff {width position : Nat} (hwidth : 0 < width) {buf bs : Bytes} :
    bytesAt width buf position = .ok bs ↔ bs.length = width ∧ bs <+: buf.drop position := by
  rw [List.prefix_iff_eq_take]
  unfold bytesAt
  split
  · next hfits =>
    have hlength : ((buf.drop position).take width).length = width := by
      rw [List.length_take, List.length_drop]
      omega
    rw [Except.ok.injEq]
    constructor
    · rintro rfl
      rw [hlength]
      exact ⟨rfl, rfl⟩
    · rintro ⟨rfl, htake⟩
      exact htake.symm
  · next hfits =>
    constructor
    · intro h
      cases h
    · rintro ⟨hlength, htake⟩
      have hle := congrArg List.length htake
      rw [List.length_take, List.length_drop] at hle
      omega

theorem u8At_eq_ok_iff {buf : Bytes} {position : Nat} {value : UInt8} :
    u8At buf position = .ok value ↔ [value] <+: buf.drop position := by
  unfold u8At
  have hhead : [value] <+: buf.drop position ↔ buf[position]? = some value := by
    rw [← List.head?_drop]
    cases buf.drop position with
    | nil => simp
    | cons b bs => simp [eq_comm]
  rw [hhead]
  cases buf[position]? with
  | none => simp
  | some b => simp

/-- The one argument behind the readers of words. Assumes: a way to write values as `width` bytes
and a way to read `width` bytes as a value, each the inverse of the other. The bytes at a position
are read as a value exactly if its written form lies there. -/
theorem map_bytesAt_eq_ok_iff {ω : Type} {read : Bytes → ω} {write : ω → Bytes} {width : Nat}
    (hwidth : 0 < width) (hlength : ∀ value, (write value).length = width)
    (hread : ∀ value, read (write value) = value)
    (hwrite : ∀ bs : Bytes, bs.length = width → write (read bs) = bs)
    {buf : Bytes} {position : Nat} {value : ω} :
    (bytesAt width buf position).map read = .ok value ↔ write value <+: buf.drop position := by
  rw [map_eq_ok_iff]
  simp only [bytesAt_eq_ok_iff hwidth]
  constructor
  · rintro ⟨bs, ⟨hbs, hat⟩, rfl⟩
    rwa [hwrite bs hbs]
  · intro hat
    exact ⟨_, ⟨hlength value, hat⟩, hread value⟩

theorem u16At_eq_ok_iff {buf : Bytes} {position : Nat} {value : UInt16} :
    u16At buf position = .ok value ↔ Bytes.ofUInt16 value <+: buf.drop position :=
  map_bytesAt_eq_ok_iff (Nat.zero_lt_succ 1) Bytes.length_ofUInt16 Bytes.toUInt16_ofUInt16
    fun _ ↦ Bytes.ofUInt16_toUInt16

theorem u32At_eq_ok_iff {buf : Bytes} {position : Nat} {value : UInt32} :
    u32At buf position = .ok value ↔ Bytes.ofUInt32 value <+: buf.drop position :=
  map_bytesAt_eq_ok_iff (Nat.zero_lt_succ 3) Bytes.length_ofUInt32 Bytes.toUInt32_ofUInt32
    fun _ ↦ Bytes.ofUInt32_toUInt32

theorem u64At_eq_ok_iff {buf : Bytes} {position : Nat} {value : UInt64} :
    u64At buf position = .ok value ↔ Bytes.ofUInt64 value <+: buf.drop position :=
  map_bytesAt_eq_ok_iff (Nat.zero_lt_succ 7) Bytes.length_ofUInt64 Bytes.toUInt64_ofUInt64
    fun _ ↦ Bytes.ofUInt64_toUInt64

/-! No access within bounds is refused. -/

theorem exists_u8At {buf : Bytes} {position : Nat} (h : position < buf.length) :
    ∃ value, u8At buf position = .ok value := by
  rw [u8At, List.getElem?_eq_getElem h]
  exact ⟨_, rfl⟩

theorem exists_map_bytesAt {ω : Type} (read : Bytes → ω) {width position : Nat} {buf : Bytes}
    (h : position + width ≤ buf.length) :
    ∃ value, (bytesAt width buf position).map read = .ok value := by
  rw [bytesAt, if_pos h]
  exact ⟨_, rfl⟩

theorem exists_u16At {buf : Bytes} {position : Nat} (h : position + 2 ≤ buf.length) :
    ∃ value, u16At buf position = .ok value :=
  exists_map_bytesAt Bytes.toUInt16 h

theorem exists_u32At {buf : Bytes} {position : Nat} (h : position + 4 ≤ buf.length) :
    ∃ value, u32At buf position = .ok value :=
  exists_map_bytesAt Bytes.toUInt32 h

theorem exists_u64At {buf : Bytes} {position : Nat} (h : position + 8 ≤ buf.length) :
    ∃ value, u64At buf position = .ok value :=
  exists_map_bytesAt Bytes.toUInt64 h

end Field

/-! ### Runs of words -/

/-- An unsigned word of one of the widths that occur on the wire. -/
inductive Word where
  | u8 (value : UInt8)
  | u16 (value : UInt16)
  | u32 (value : UInt32)
  | u64 (value : UInt64)
  deriving DecidableEq, Repr

namespace Word

/-- The bytes of a word, least significant first. -/
def bytes : Word → Bytes
  | u8 value => [value]
  | u16 value => Bytes.ofUInt16 value
  | u32 value => Bytes.ofUInt32 value
  | u64 value => Bytes.ofUInt64 value

/-- The number of bytes of a word. -/
def width : Word → Nat
  | u8 _ => 1
  | u16 _ => 2
  | u32 _ => 4
  | u64 _ => 8

/-- The bytes of a run of words, one after the other. -/
def bytesOf (words : List Word) : Bytes := words.flatMap bytes

/-- The reader of the word's width finds the word at a position. -/
def ReadAt (buf : Bytes) (position : Nat) : Word → Prop
  | u8 value => Field.u8At buf position = .ok value
  | u16 value => Field.u16At buf position = .ok value
  | u32 value => Field.u32At buf position = .ok value
  | u64 value => Field.u64At buf position = .ok value

/-- Each word of a run is found where the one before it ends, and the string ends with the last. -/
def AllReadAt (buf : Bytes) : Nat → List Word → Prop
  | position, [] => buf.length ≤ position
  | position, word :: words =>
    word.ReadAt buf position ∧ AllReadAt buf (position + word.width) words

@[simp] theorem length_bytes (word : Word) : word.bytes.length = word.width := by
  cases word with
  | u8 value => rfl
  | u16 value => exact Bytes.length_ofUInt16 value
  | u32 value => exact Bytes.length_ofUInt32 value
  | u64 value => exact Bytes.length_ofUInt64 value

/-- A word is found at a position exactly if its bytes lie there. -/
theorem readAt_iff {buf : Bytes} {position : Nat} {word : Word} :
    word.ReadAt buf position ↔ word.bytes <+: buf.drop position := by
  cases word with
  | u8 value => exact Field.u8At_eq_ok_iff
  | u16 value => exact Field.u16At_eq_ok_iff
  | u32 value => exact Field.u32At_eq_ok_iff
  | u64 value => exact Field.u64At_eq_ok_iff

/-- From a position on, a byte string is a run of words exactly if each word is found in turn. -/
theorem drop_eq_bytesOf_iff {buf : Bytes} {position : Nat} {words : List Word} :
    buf.drop position = bytesOf words ↔ AllReadAt buf position words := by
  induction words generalizing position with
  | nil => exact List.drop_eq_nil_iff
  | cons word words ih =>
    rw [AllReadAt, ← ih, readAt_iff, bytesOf, List.flatMap_cons, ← List.drop_drop,
      ← length_bytes word]
    constructor
    · intro h
      rw [h]
      exact ⟨List.prefix_append _ _, List.drop_left⟩
    · rintro ⟨⟨rest, hrest⟩, hdrop⟩
      rw [← hrest, List.drop_left] at hdrop
      rw [← hrest, hdrop]
      rfl

/-- A byte string is a run of words exactly if each word is found in turn from the start. -/
theorem eq_bytesOf_iff {buf : Bytes} {words : List Word} :
    buf = bytesOf words ↔ AllReadAt buf 0 words := by
  rw [← drop_eq_bytesOf_iff, List.drop_zero]

end Word

end TopicWire
