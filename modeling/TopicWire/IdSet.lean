import Std.Data.TreeSet.Lemmas
import TopicWire.Buffer
import TopicWire.Error

/-!
# Sets of identifiers

A set of 64-bit ids is kept as its strictly ascending list, so equal sets are equal values and are
written the same way: eight little-endian bytes for each id, in ascending order and with nothing in
between. The wire carries no count; it follows from the number of bytes. Reading takes the ids in
any order and refuses a run of the wrong length and an id that occurs twice.
-/

set_option autoImplicit false
set_option relaxedAutoImplicit false

namespace TopicWire

/-- A finite set of ids, as its strictly ascending list. -/
structure IdSet where
  ids : List UInt64
  ascending : ids.Pairwise (· < ·)
  deriving DecidableEq

namespace IdSet

/-- The ids of a list as a set. -/
def ofList (ids : List UInt64) : IdSet where
  ids := (Std.TreeSet.ofList ids).toList
  ascending := (Std.TreeSet.ordered_toList (t := .ofList ids)).imp Std.compare_eq_lt.1

/-- The number of ids. -/
def size (s : IdSet) : Nat := s.ids.length

/-- The ids of a list are the members of its set. -/
theorem mem_ids_ofList {x : UInt64} {ids : List UInt64} : x ∈ (ofList ids).ids ↔ x ∈ ids := by
  rw [ofList, Std.TreeSet.mem_toList, Std.TreeSet.mem_ofList, List.contains_iff_mem]

/-- The number of bytes of `count` ids. -/
def encodedLength (count : Nat) : Nat := 8 * count

/-- The wire form of a set. -/
def encode (s : IdSet) : Bytes := s.ids.flatMap Bytes.ofUInt64

/-- The steps that write a set: room for all of it, then the ids one by one. -/
def writes (s : IdSet) : List Write :=
  .reserve (encodedLength s.size) :: s.ids.map Write.u64

/-- Writing a set id by id gives its wire form. -/
theorem bytesOf_writes (s : IdSet) : Write.bytesOf s.writes = s.encode := by
  have h : ∀ ids : List UInt64, Write.bytesOf (ids.map Write.u64) = ids.flatMap Bytes.ofUInt64 := by
    intro ids
    rw [Write.bytesOf, List.flatMap_map]
    rfl
  exact h s.ids

/-- The number of ids in a run of `size` bytes, which has to be whole. -/
def countForSize (size : Nat) : Except ProtocolError Nat :=
  if size % 8 = 0 then .ok (size / 8) else .error (.malformedIdSet size)

/-- The first `count` words of eight bytes. -/
def words : Nat → Bytes → List UInt64
  | 0, _ => []
  | count + 1, bs => Bytes.toUInt64 (bs.take 8) :: words count (bs.drop 8)

/-- The first id of a list that occurs earlier in it or among those seen before. -/
def firstRepeat? (seen : Std.TreeSet UInt64) : List UInt64 → Option UInt64
  | [] => none
  | x :: xs => if x ∈ seen then some x else firstRepeat? (seen.insert x) xs

/-- The set of exactly `count` ids written in a byte string. -/
def decode (bs : Bytes) (count : Nat) : Except ProtocolError IdSet :=
  if bs.length = encodedLength count then
    match firstRepeat? ∅ (words count bs) with
    | some id => .error (.duplicateId id)
    | none => .ok (ofList (words count bs))
  else .error (.malformedIdSet bs.length)

/-- The ids of an ascending list that are not in a second one. Of the second list only those from
the id at hand on are kept, so that both lists are walked once. -/
def without : List UInt64 → List UInt64 → List UInt64
  | [], _ => []
  | x :: xs, ys =>
    let later := ys.dropWhile (· < x)
    if later.head? = some x then without xs later else x :: without xs later

/-- What is left of a list after its ids below a bound: all those that are not below it. -/
theorem mem_dropWhile_lt {x z : UInt64} (h : ¬z < x) {ys : List UInt64} :
    z ∈ ys.dropWhile (· < x) ↔ z ∈ ys := by
  induction ys with
  | nil => simp
  | cons y ys ih =>
    rw [List.dropWhile_cons]
    split
    · next hy =>
      have hne : z ≠ y := fun e ↦ h (e ▸ of_decide_eq_true hy)
      rw [ih, List.mem_cons, or_iff_right hne]
    · rfl

/-- An ascending list from a bound on starts with the bound exactly if the bound is in the list. -/
theorem head?_dropWhile_lt {x : UInt64} {ys : List UInt64} (h : ys.Pairwise (· < ·)) :
    (ys.dropWhile (· < x)).head? = some x ↔ x ∈ ys := by
  induction ys with
  | nil => simp
  | cons y ys ih =>
    obtain ⟨hy, hys⟩ := List.pairwise_cons.1 h
    rw [List.dropWhile_cons]
    split
    · next hyx =>
      have hne : x ≠ y := (UInt64.ne_of_lt (of_decide_eq_true hyx)).symm
      rw [ih hys, List.mem_cons, or_iff_right hne]
    · next hyx =>
      rw [List.head?_cons, Option.some_inj, List.mem_cons]
      refine ⟨fun e ↦ .inl e.symm, fun hx ↦ ?_⟩
      rcases hx with rfl | hx
      · rfl
      · exact absurd (decide_eq_true (hy x hx)) hyx

/-- Walking two ascending lists together keeps the ids of the first that the second lacks. -/
theorem without_eq_filter {xs ys : List UInt64} (hx : xs.Pairwise (· < ·))
    (hy : ys.Pairwise (· < ·)) : without xs ys = xs.filter (· ∉ ys) := by
  induction xs generalizing ys with
  | nil => rfl
  | cons x xs ih =>
    obtain ⟨hlt, hxs⟩ := List.pairwise_cons.1 hx
    have hlater := ih hxs (hy.sublist (List.dropWhile_sublist (· < x)))
    have hfilter : xs.filter (· ∉ ys.dropWhile (· < x)) = xs.filter (· ∉ ys) := by
      refine List.filter_congr fun z hz ↦ ?_
      simp only [mem_dropWhile_lt (UInt64.not_lt.2 (UInt64.le_of_lt (hlt z hz)))]
    rw [without]
    simp only [head?_dropWhile_lt hy, hlater, hfilter, List.filter_cons]
    by_cases h : x ∈ ys <;> simp [h]

/-- The ids that lead from one set to another: those to add and those to remove, ascending. -/
def diff (target current : IdSet) : List UInt64 × List UInt64 :=
  (without target.ids current.ids, without current.ids target.ids)

end IdSet

end TopicWire
