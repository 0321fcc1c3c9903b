import Mathlib.Algebra.GroupWithZero.Nat
import Mathlib.Tactic.SplitIfs
import TopicWire.Sequence

/-!
# The circle of sequence numbers

Sequence numbers lie on a circle of 2^32 words, and their order is told by one distance: that from
the last number seen forward to the incoming one (`Sequence.distance`). Each of the four orders is a
range of it (`Sequence.classify_eq_duplicate_iff`, `Sequence.classify_eq_inOrder_iff`,
`Sequence.classify_eq_gap_iff`, `Sequence.classify_eq_reordered_iff`), and a number is forward of
another exactly if the distance is positive and below half the circle (`Sequence.forward_iff`).

Distances do not change when both numbers are shifted, those there and back make up the circle
(`Sequence.distance_add_distance`), and those on the way add up on it (`Sequence.distance_trans`).
With these three facts the order is one of serial numbers (`Sequence.classify_serial`). Half the
circle is the one distance that is the same there and back, and the only one at which of two numbers
neither is forward of the other.
-/

set_option autoImplicit false
set_option relaxedAutoImplicit false

namespace TopicWire.Sequence

/-! ### Distances -/

/-- How far a number lies ahead of another on the circle. -/
def distance (last incoming : UInt32) : Nat := (incoming - last).toNat

section Distance

variable (a b c shift : UInt32)

theorem distance_lt : distance a b < 2 ^ 32 := (b - a).toNat_lt

theorem distance_eq_mod : distance a b = (2 ^ 32 - a.toNat + b.toNat) % 2 ^ 32 :=
  UInt32.toNat_sub b a

theorem distance_add_add : distance (a + shift) (b + shift) = distance a b := by
  have ha := a.toNat_lt
  have hb := b.toNat_lt
  rw [distance_eq_mod, distance_eq_mod, UInt32.toNat_add, UInt32.toNat_add]
  omega

variable {a b}

theorem distance_eq_zero_iff : distance a b = 0 ↔ a = b := by
  have ha := a.toNat_lt
  have hb := b.toNat_lt
  rw [distance_eq_mod, ← UInt32.toNat_inj]
  omega

/-- The distances there and back make up the circle. -/
theorem distance_add_distance (h : a ≠ b) : distance a b + distance b a = 2 ^ 32 := by
  have ha := a.toNat_lt
  have hb := b.toNat_lt
  rw [ne_eq, ← UInt32.toNat_inj] at h
  rw [distance_eq_mod, distance_eq_mod]
  omega

variable (a b)

/-- The distances on the way add up, around the circle. -/
theorem distance_trans : distance a c = (distance a b + distance b c) % 2 ^ 32 := by
  have ha := a.toNat_lt
  have hb := b.toNat_lt
  have hc := c.toNat_lt
  rw [distance_eq_mod, distance_eq_mod, distance_eq_mod]
  omega

end Distance

/-! ### Orders by distance -/

section Orders

variable {last incoming missing : UInt32}

/-- The order of a number by its distance, without wrapping. -/
theorem classify_eq (last incoming : UInt32) :
    classify last incoming =
      if distance last incoming = 0 then .duplicate
      else if distance last incoming = 1 then .inOrder
      else if distance last incoming < 2 ^ 31 then .gap (UInt32.ofNat (distance last incoming - 1))
      else .reordered := by
  have hzero : incoming - last = 0 ↔ distance last incoming = 0 := UInt32.toNat_inj.symm
  have hone : incoming - last = 1 ↔ distance last incoming = 1 := UInt32.toNat_inj.symm
  have hahead : incoming - last ≤ 0x7FFFFFFF ↔ distance last incoming < 2 ^ 31 :=
    UInt32.le_iff_toNat_le.trans Nat.lt_succ_iff.symm
  simp only [classify, hzero, hone, hahead]
  split_ifs with h0 h1 h2
  · rfl
  · rfl
  · have hlt := distance_lt last incoming
    congr 1
    rw [← UInt32.toNat_inj, UInt32.toNat_sub_of_le, UInt32.toNat_ofNat_of_lt']
    · rfl
    · show _ < 2 ^ 32
      omega
    · rw [UInt32.le_iff_toNat_le]
      exact Nat.one_le_iff_ne_zero.mpr h0
  · rfl

theorem classify_eq_duplicate_iff :
    classify last incoming = .duplicate ↔ distance last incoming = 0 := by
  rw [classify_eq]
  split_ifs <;> simp_all

theorem classify_eq_inOrder_iff :
    classify last incoming = .inOrder ↔ distance last incoming = 1 := by
  rw [classify_eq]
  split_ifs <;> simp_all

theorem classify_eq_gap_iff :
    classify last incoming = .gap missing ↔
      distance last incoming = missing.toNat + 1 ∧ 1 ≤ missing.toNat ∧
        missing.toNat + 1 < 2 ^ 31 := by
  have hlt := distance_lt last incoming
  have hmissing : UInt32.ofNat (distance last incoming - 1) = missing ↔
      distance last incoming - 1 = missing.toNat := by
    rw [← UInt32.toNat_inj, UInt32.toNat_ofNat_of_lt' (Nat.lt_of_le_of_lt (Nat.sub_le ..) hlt)]
  rw [classify_eq]
  split_ifs with h0 h1 h2
  · simp [h0]
  · simp only [false_iff]
    omega
  · rw [Order.gap.injEq, hmissing]
    omega
  · simp only [false_iff]
    omega

theorem classify_eq_reordered_iff :
    classify last incoming = .reordered ↔ 2 ^ 31 ≤ distance last incoming := by
  rw [classify_eq]
  split_ifs <;> simp_all

end Orders

/-! ### Numbers ahead -/

/-- A number is forward of another, with so many missing between the two. -/
inductive Forward (last incoming : UInt32) : UInt32 → Prop
  | inOrder (horder : classify last incoming = .inOrder) : Forward last incoming 0
  | gap {missing : UInt32} (horder : classify last incoming = .gap missing) :
    Forward last incoming missing

section Forward

variable {a b c missing first second : UInt32}

/-- A number is forward of another at any positive distance below half the circle. -/
theorem forward_iff :
    Forward a b missing ↔ distance a b = missing.toNat + 1 ∧ missing.toNat + 1 < 2 ^ 31 := by
  constructor
  · rintro (horder | horder)
    · exact ⟨classify_eq_inOrder_iff.mp horder, by decide⟩
    · obtain ⟨hdistance, -, hlt⟩ := classify_eq_gap_iff.mp horder
      exact ⟨hdistance, hlt⟩
  · rintro ⟨hdistance, hlt⟩
    by_cases hzero : missing = 0
    · subst hzero
      exact .inOrder (classify_eq_inOrder_iff.mpr hdistance)
    · have hpos : 1 ≤ missing.toNat := by
        rw [Nat.one_le_iff_ne_zero]
        exact fun h ↦ hzero (UInt32.toNat_inj.mp h)
      exact .gap (classify_eq_gap_iff.mpr ⟨hdistance, hpos, hlt⟩)

theorem exists_forward_iff :
    (∃ missing, Forward a b missing) ↔ 0 < distance a b ∧ distance a b < 2 ^ 31 := by
  simp only [forward_iff]
  constructor
  · rintro ⟨missing, hdistance, hlt⟩
    omega
  · rintro ⟨hpos, hlt⟩
    have hmissing : (UInt32.ofNat (distance a b - 1)).toNat = distance a b - 1 :=
      UInt32.toNat_ofNat_of_lt' (Nat.lt_of_le_of_lt (Nat.sub_le ..) (distance_lt a b))
    exact ⟨UInt32.ofNat (distance a b - 1), by omega, by omega⟩

/-- A number with so many missing before it is that many and one ahead. -/
theorem Forward.eq_add (h : Forward a b missing) : b = a + missing + 1 := by
  have hdistance := (forward_iff.mp h).1
  have ha := a.toNat_lt
  have hb := b.toNat_lt
  rw [distance_eq_mod] at hdistance
  rw [← UInt32.toNat_inj, UInt32.toNat_add, UInt32.toNat_add, UInt32.toNat_one]
  omega

/-- What is forward one way is late the other way. -/
theorem Forward.reordered (h : Forward a b missing) : classify b a = .reordered := by
  obtain ⟨hdistance, hlt⟩ := forward_iff.mp h
  have hne : a ≠ b := by
    rw [ne_eq, ← distance_eq_zero_iff, hdistance]
    exact Nat.succ_ne_zero _
  have hcircle := distance_add_distance hne
  rw [classify_eq_reordered_iff]
  omega

/-- Of two numbers that are not the same nor half the circle apart, one is forward of the other. -/
theorem exists_forward_xor (hne : a ≠ b) :
    if b - a = 0x80000000 then classify a b = .reordered ∧ classify b a = .reordered
    else Xor (∃ missing, Forward a b missing) (∃ missing, Forward b a missing) := by
  have hcircle := distance_add_distance hne
  have hhalf : b - a = 0x80000000 ↔ distance a b = 2 ^ 31 := UInt32.toNat_inj.symm
  simp only [hhalf, xor_def, exists_forward_iff]
  split_ifs with h
  · exact ⟨classify_eq_reordered_iff.mpr (by omega), classify_eq_reordered_iff.mpr (by omega)⟩
  · have hthere := distance_lt a b
    have hback := distance_lt b a
    rcases Nat.lt_or_ge (distance a b) (2 ^ 31) with hlt | hge
    · exact .inl ⟨⟨by omega, hlt⟩, by omega⟩
    · exact .inr ⟨⟨by omega, by omega⟩, by omega⟩

/-- Two gaps in a row are one gap, whose missing numbers are those of the two and the number
between. -/
theorem Forward.trans (hfirst : Forward a b first) (hsecond : Forward b c second)
    (h : first.toNat + second.toNat + 2 < 2 ^ 31) :
    classify a c = .gap (first + second + 1) := by
  obtain ⟨hfirst, -⟩ := forward_iff.mp hfirst
  obtain ⟨hsecond, -⟩ := forward_iff.mp hsecond
  have hsum : (first + second + 1).toNat = first.toNat + second.toNat + 1 := by
    rw [UInt32.toNat_add, UInt32.toNat_add, UInt32.toNat_one]
    omega
  -- Below half the circle the sum of the two distances does not wrap.
  have hdistance := distance_trans a b c
  rw [classify_eq_gap_iff]
  omega

end Forward

/-- Sequence numbers are ordered as serial numbers. The order of two numbers depends on neither
alone but on where they lie on the circle relative to each other, and a number is the duplicate of
itself only. A number forward of another with some missing is those and one ahead, fewer than half
the circle, and seen from it the other is late. Of two numbers one is forward of the other and not
the other way round, except that over half the circle each is late for the other. What is missing
over two steps forward, as long as they stay below half the circle, is missing over both at once,
and so is the number between. -/
theorem classify_serial (a b c shift : UInt32) :
    classify (a + shift) (b + shift) = classify a b ∧
      (classify a b = .duplicate ↔ a = b) ∧
      (∀ missing, Forward a b missing →
        b = a + missing + 1 ∧ missing.toNat ≤ 2 ^ 31 - 2 ∧ classify b a = .reordered) ∧
      (a ≠ b →
        if b - a = 0x80000000 then classify a b = .reordered ∧ classify b a = .reordered
        else Xor (∃ missing, Forward a b missing) (∃ missing, Forward b a missing)) ∧
      ∀ first second, Forward a b first → Forward b c second →
        first.toNat + second.toNat + 2 < 2 ^ 31 →
          classify a c = .gap (first + second + 1) := by
  refine ⟨?_, ?_, fun missing h ↦ ⟨h.eq_add, ?_, h.reordered⟩, exists_forward_xor,
    fun first second hfirst hsecond ↦ hfirst.trans hsecond⟩
  · rw [classify_eq, classify_eq, distance_add_add]
  · rw [classify_eq_duplicate_iff, distance_eq_zero_iff]
  · obtain ⟨-, hlt⟩ := forward_iff.mp h
    omega

end TopicWire.Sequence
