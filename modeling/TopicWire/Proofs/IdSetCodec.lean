import Mathlib.Data.List.Permutation
import TopicWire.Proofs.IdSetOrderings

/-!
# What a set of ids is written as and read from

A set has one written form and as many forms that are read as it as there are orders of its ids
(`IdSet.length_orderings`, `IdSet.nodup_orderings`, `IdSet.mem_orderings_iff`). A run of bytes that
is no such form is refused for its length or else for the first of its ids that occurs earlier, and
nothing else (`IdSet.decode_eq_ok_iff_nodup`, `IdSet.decode_eq_error_iff_table`).

A count is a machine word, and its product by eight may be more than such a word can hold. The
product is then no length at all (`IdSet.encodedLength?`), so the length of a run is checked as if
numbers had no bound (`IdSet.encodedLength?_eq_some_iff`), and what is read with this check is what
is read without it (`IdSet.decodeWord_eq`).
-/

set_option autoImplicit false
set_option relaxedAutoImplicit false

namespace TopicWire.IdSet

/-! ### Lengths in machine words -/

/-- The number of bytes of so many ids as a machine word, unless it is more than one can hold. -/
def encodedLength? (count : UInt64) : Option UInt64 :=
  if encodedLength count.toNat < 2 ^ 64 then some (8 * count) else none

theorem encodedLength?_eq_some_iff {count length : UInt64} :
    encodedLength? count = some length ↔ length.toNat = encodedLength count.toNat := by
  have hlength := length.toNat_lt
  rw [encodedLength?, encodedLength]
  split_ifs with hfits
  · rw [Option.some_inj, ← UInt64.toNat_inj, UInt64.toNat_mul]
    show 8 * count.toNat % 2 ^ 64 = _ ↔ _
    omega
  · simp only [false_iff]
    omega

/-- The check on machine words is the check on numbers. Assumes: a run that a machine word can
measure. -/
theorem encodedLength?_eq_length_iff {bs : Bytes} {count : UInt64} (h : bs.length < 2 ^ 64) :
    encodedLength? count = some (UInt64.ofNat bs.length) ↔
      bs.length = encodedLength count.toNat := by
  rw [encodedLength?_eq_some_iff, UInt64.toNat_ofNat', Nat.mod_eq_of_lt h]

/-- The set of exactly so many ids, with the length checked in machine words. -/
def decodeWord (bs : Bytes) (count : UInt64) : Except ProtocolError IdSet :=
  if encodedLength? count = some (UInt64.ofNat bs.length) then
    match firstRepeat? ∅ (words count.toNat bs) with
    | some id => .error (.duplicateId id)
    | none => .ok (ofList (words count.toNat bs))
  else .error (.malformedIdSet bs.length)

/-- To check the length in machine words changes nothing. Assumes: a run that a machine word can
measure. -/
theorem decodeWord_eq {bs : Bytes} (h : bs.length < 2 ^ 64) (count : UInt64) :
    decodeWord bs count = decode bs count.toNat :=
  if_congr (encodedLength?_eq_length_iff h) rfl rfl

/-! ### Which runs are read -/

section Reading

variable {bs : Bytes} {count : Nat} {s : IdSet}

/-- A run is read exactly if it is whole and no id occurs twice, and as the set of its ids. -/
theorem decode_eq_ok_iff_nodup :
    decode bs count = .ok s ↔
      bs.length = encodedLength count ∧ (words count bs).Nodup ∧
        ∀ id, id ∈ s.ids ↔ id ∈ words count bs := by
  rw [decode_eq_ok_iff]
  constructor
  · rintro ⟨ids, hperm, hids⟩
    obtain ⟨hlength, hwords⟩ := words_eq_iff.mpr hids
    rw [hwords]
    exact ⟨hlength, hperm.nodup_iff.mpr (nodup_ids s), fun id ↦ hperm.mem_iff.symm⟩
  · rintro ⟨hlength, hnodup, hmem⟩
    refine ⟨words count bs, ?_, words_eq_iff.mp ⟨hlength, rfl⟩⟩
    exact (List.perm_ext_iff_of_nodup hnodup (nodup_ids s)).mpr fun id ↦ (hmem id).symm

/-- A run is refused for its length or else for the first id that occurs earlier. -/
theorem decode_eq_error_iff_table {reason : ProtocolError} :
    decode bs count = .error reason ↔
      bs.length ≠ encodedLength count ∧ reason = .malformedIdSet bs.length ∨
        bs.length = encodedLength count ∧
          ∃ id, (∃ earlier later, words count bs = earlier ++ id :: later ∧ earlier.Nodup ∧
            id ∈ earlier) ∧ reason = .duplicateId id := by
  by_cases hlength : bs.length = encodedLength count
  · rw [decode_eq_error_iff hlength]
    simp only [firstRepeat?_empty_eq_some_iff, hlength, ne_eq, not_true_eq_false, false_and,
      false_or, true_and]
  · rw [decode, if_neg hlength, Except.error.injEq]
    simp [hlength, eq_comm]

end Reading

/-! ### The forms of a set -/

/-- The forms of a set: its ids in every order. -/
def orderings (s : IdSet) : List Bytes :=
  s.ids.permutations.map fun ids ↦ ids.flatMap Bytes.ofUInt64

theorem length_orderings (s : IdSet) : s.orderings.length = s.size.factorial := by
  rw [orderings, List.length_map, List.length_permutations]
  rfl

theorem nodup_orderings (s : IdSet) : s.orderings.Nodup :=
  (List.nodup_permutations _ (nodup_ids s)).map fun _ _ ↦ eq_of_flatMap_ofUInt64_eq

/-- The forms of a set are the runs of as many ids that are read as the set. -/
theorem mem_orderings_iff {s : IdSet} {run : Bytes} :
    run ∈ s.orderings ↔ decode run s.size = .ok s := by
  rw [decode_eq_ok_iff, orderings, List.mem_map]
  simp only [List.mem_permutations]
  constructor
  · rintro ⟨ids, hperm, rfl⟩
    exact ⟨ids, hperm, hperm.length_eq, rfl⟩
  · rintro ⟨ids, hperm, -, rfl⟩
    exact ⟨ids, hperm, rfl⟩

/-- The written form of a set and the runs that are read as it. A set is appended to a buffer as its
ids in ascending order, which are as many bytes as are reckoned for it, and their number and the set
are read back. A run and a count give a set exactly if the run is that many whole ids, all
different, and the set is made of them; otherwise the run is refused for its length or, if that is
right, for the first id that occurs earlier. Lengths are checked without bound: a machine word that
holds the product of the count by eight only wrapped around passes no run, and a reader that counts
in such words answers the same. So the runs that are read as a set are its ids in every order, one
run for each, and all are written back as the one. -/
theorem decode_iff_ordering (s : IdSet) (bs : Bytes) (count : Nat) :
    ((∀ (growth : Growth) (b : Buffer), (b.writeAll growth s.writes).bytes =
          b.bytes ++ s.ids.flatMap Bytes.ofUInt64) ∧
        s.ids.Pairwise (· < ·) ∧
        (s.ids.flatMap Bytes.ofUInt64).length = encodedLength s.size ∧
        (encodedLength s.size < 2 ^ 64 → encodedLength? (UInt64.ofNat s.size) =
          some (UInt64.ofNat (s.ids.flatMap Bytes.ofUInt64).length)) ∧
        countForSize (encodedLength s.size) = .ok s.size ∧
        decode (s.ids.flatMap Bytes.ofUInt64) s.size = .ok s) ∧
      ((decode bs count = .ok s ↔
          bs.length = 8 * count ∧ (words count bs).Nodup ∧
            ∀ id, id ∈ s.ids ↔ id ∈ words count bs) ∧
        (∀ reason, decode bs count = .error reason ↔
          bs.length ≠ 8 * count ∧ reason = .malformedIdSet bs.length ∨
            bs.length = 8 * count ∧
              ∃ id, (∃ earlier later, words count bs = earlier ++ id :: later ∧ earlier.Nodup ∧
                id ∈ earlier) ∧ reason = .duplicateId id) ∧
        (bs.length = 8 * count → bs = (words count bs).flatMap Bytes.ofUInt64) ∧
        ∀ word : UInt64, word.toNat = count → bs.length < 2 ^ 64 →
          (encodedLength? word = some (UInt64.ofNat bs.length) ↔ bs.length = 8 * count) ∧
            decodeWord bs word = decode bs count) ∧
      (s.orderings.length = s.size.factorial ∧ s.orderings.Nodup ∧
        ∀ run, run ∈ s.orderings ↔ (decode run s.size = .ok s ∧
          (decode run s.size).map encode = .ok (s.ids.flatMap Bytes.ofUInt64))) := by
  have hwritten : (s.ids.flatMap Bytes.ofUInt64).length = encodedLength s.size :=
    length_flatMap_ofUInt64 s.ids
  refine ⟨⟨fun growth b ↦ ?_, s.ascending, hwritten, fun hfits ↦ ?_, ?_, ?_⟩,
    ⟨decode_eq_ok_iff_nodup, fun reason ↦ decode_eq_error_iff_table,
      fun hlength ↦ (flatMap_ofUInt64_words hlength).symm, ?_⟩,
    length_orderings s, nodup_orderings s, fun run ↦ ?_⟩
  · rw [Buffer.bytes_writeAll, bytesOf_writes]
    rfl
  · have hsize : (UInt64.ofNat s.size).toNat = s.size := by
      rw [encodedLength] at hfits
      rw [UInt64.toNat_ofNat', Nat.mod_eq_of_lt (by omega)]
    rw [encodedLength?_eq_length_iff (hwritten ▸ hfits), hsize]
    exact hwritten
  · exact countForSize_eq_ok_iff.mpr rfl
  · exact decode_eq_ok_iff.mpr ⟨s.ids, List.Perm.refl _, rfl, rfl⟩
  · rintro word rfl hbound
    exact ⟨encodedLength?_eq_length_iff hbound, decodeWord_eq hbound word⟩
  · -- What is read is the set, so writing it back knows nothing of the order it came in.
    rw [mem_orderings_iff, iff_self_and]
    intro hrun
    rw [hrun]
    rfl

end TopicWire.IdSet
