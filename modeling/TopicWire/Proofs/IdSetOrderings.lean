import TopicWire.IdSet
import TopicWire.Proofs.FieldPlacement

/-!
# The orders in which a set of ids may come in

A set of ids is written in ascending order but read in any. A run of bytes is accepted as a set
exactly if it is the ids of the set, each once, in some order (`IdSet.decode_eq_ok_iff`). The run
and its list of ids determine each other (`IdSet.words_eq_iff`), the check for a repeat refuses
exactly the lists that are not duplicate-free (`IdSet.firstRepeat?_eq_none_iff`) and names the first
id that occurs earlier (`IdSet.firstRepeat?_empty_eq_some_iff`), and of all the orders of a set only
one is kept (`IdSet.eq_of_perm`). So a run of whole ids is refused for a repeat and nothing else
(`IdSet.decode_eq_error_iff`), and a size for not being that of whole ids
(`IdSet.countForSize_eq_error_iff`).
-/

set_option autoImplicit false
set_option relaxedAutoImplicit false

namespace TopicWire.IdSet

/-! ### Ids and their bytes -/

theorem length_flatMap_ofUInt64 (ids : List UInt64) :
    (ids.flatMap Bytes.ofUInt64).length = encodedLength ids.length := by
  induction ids with
  | nil => rfl
  | cons id ids ih =>
    rw [List.flatMap_cons, List.length_append, ih, Bytes.length_ofUInt64, List.length_cons,
      encodedLength, encodedLength]
    omega

/-- The wire form of a set is as long as is reckoned for its ids. -/
theorem length_encode (s : IdSet) : s.encode.length = encodedLength s.size :=
  length_flatMap_ofUInt64 s.ids

@[simp] theorem length_words (count : Nat) (bs : Bytes) : (words count bs).length = count := by
  induction count generalizing bs with
  | zero => rfl
  | succ count ih => rw [words, List.length_cons, ih]

/-- The ids are read back from their bytes. -/
theorem words_flatMap_ofUInt64 (ids : List UInt64) :
    words ids.length (ids.flatMap Bytes.ofUInt64) = ids := by
  induction ids with
  | nil => rfl
  | cons id ids ih =>
    have hid := Bytes.length_ofUInt64 id
    rw [List.flatMap_cons, List.length_cons, words, List.take_left' hid, List.drop_left' hid, ih,
      Bytes.toUInt64_ofUInt64]

/-- Ids are determined by their bytes. -/
theorem eq_of_flatMap_ofUInt64_eq {ids ids' : List UInt64}
    (h : ids.flatMap Bytes.ofUInt64 = ids'.flatMap Bytes.ofUInt64) : ids = ids' := by
  have hlength := congrArg List.length h
  rw [length_flatMap_ofUInt64, length_flatMap_ofUInt64, encodedLength, encodedLength] at hlength
  have hcount : ids.length = ids'.length := by omega
  rw [← words_flatMap_ofUInt64 ids, h, hcount, words_flatMap_ofUInt64]

/-- The ids at the front of a run and the bytes after them make up the run. -/
theorem flatMap_words_append_drop {count : Nat} {bs : Bytes}
    (h : encodedLength count ≤ bs.length) :
    (words count bs).flatMap Bytes.ofUInt64 ++ bs.drop (encodedLength count) = bs := by
  rw [encodedLength] at h ⊢
  induction count generalizing bs with
  | zero => rfl
  | succ count ih =>
    have htake : (bs.take 8).length = 8 := by
      rw [List.length_take]
      omega
    have hdrop : 8 * count ≤ (bs.drop 8).length := by
      rw [List.length_drop]
      omega
    have hrest := ih hdrop
    rw [List.drop_drop, Nat.add_comm] at hrest
    rw [words, List.flatMap_cons, Bytes.ofUInt64_toUInt64 htake, List.append_assoc, Nat.mul_add,
      Nat.mul_one, hrest, List.take_append_drop]

/-- The bytes are written back from their ids. Assumes: as many bytes as the ids take. -/
theorem flatMap_ofUInt64_words {count : Nat} {bs : Bytes} (h : bs.length = encodedLength count) :
    (words count bs).flatMap Bytes.ofUInt64 = bs := by
  have hwhole := flatMap_words_append_drop (Nat.le_of_eq h.symm)
  rwa [List.drop_eq_nil_of_le (Nat.le_of_eq h), List.append_nil] at hwhole

/-- A run of bytes of the right length and its ids determine each other. -/
theorem words_eq_iff {count : Nat} {bs : Bytes} {ids : List UInt64} :
    bs.length = encodedLength count ∧ words count bs = ids ↔
      ids.length = count ∧ bs = ids.flatMap Bytes.ofUInt64 := by
  constructor
  · rintro ⟨hlength, rfl⟩
    exact ⟨length_words count bs, (flatMap_ofUInt64_words hlength).symm⟩
  · rintro ⟨rfl, rfl⟩
    exact ⟨length_flatMap_ofUInt64 ids, words_flatMap_ofUInt64 ids⟩

/-! ### Repeats and orders -/

/-- No repeat is reported exactly if the ids are distinct and none was seen before. -/
theorem firstRepeat?_eq_none_iff {seen : Std.TreeSet UInt64} {ids : List UInt64} :
    firstRepeat? seen ids = none ↔ ids.Nodup ∧ ∀ id ∈ ids, id ∉ seen := by
  induction ids generalizing seen with
  | nil => simp [firstRepeat?]
  | cons id ids ih =>
    rw [firstRepeat?]
    split
    · next hseen => simp [hseen]
    · next hseen =>
      simp only [ih, List.nodup_cons, List.forall_mem_cons, Std.TreeSet.mem_insert,
        Std.LawfulEqCmp.compare_eq_iff_eq, not_or]
      constructor
      · rintro ⟨hnodup, hnew⟩
        exact ⟨⟨fun hmem ↦ (hnew id hmem).1 rfl, hnodup⟩, hseen, fun x hx ↦ (hnew x hx).2⟩
      · rintro ⟨⟨hmem, hnodup⟩, -, hold⟩
        exact ⟨hnodup, fun x hx ↦ ⟨fun hid ↦ hmem (hid ▸ hx), hold x hx⟩⟩

/-- The repeat that is reported is the first id that was seen before or occurs earlier. -/
theorem firstRepeat?_eq_some_iff {seen : Std.TreeSet UInt64} {ids : List UInt64} {id : UInt64} :
    firstRepeat? seen ids = some id ↔
      ∃ earlier later, ids = earlier ++ id :: later ∧ (id ∈ seen ∨ id ∈ earlier) ∧
        earlier.Nodup ∧ ∀ x ∈ earlier, x ∉ seen := by
  induction ids generalizing seen with
  | nil =>
    constructor
    · intro h
      cases h
    · rintro ⟨earlier, later, hsplit, -⟩
      exact absurd hsplit.symm
        (List.append_ne_nil_of_right_ne_nil earlier (List.cons_ne_nil id later))
  | cons x xs ih =>
    rw [firstRepeat?]
    split
    · next hx =>
      rw [Option.some.injEq]
      constructor
      · rintro rfl
        exact ⟨[], xs, rfl, .inl hx, List.nodup_nil, fun _ h ↦ absurd h List.not_mem_nil⟩
      · rintro ⟨earlier, later, hsplit, -, -, hnew⟩
        -- An id seen before is not among the earlier ones, so there are none.
        cases earlier with
        | nil => exact (List.cons.inj hsplit).1
        | cons y ys =>
          obtain ⟨rfl, -⟩ := List.cons.inj hsplit
          exact absurd hx (hnew x List.mem_cons_self)
    · next hx =>
      simp only [ih, Std.TreeSet.mem_insert, Std.LawfulEqCmp.compare_eq_iff_eq, not_or]
      constructor
      · rintro ⟨earlier, later, rfl, hrepeat, hnodup, hnew⟩
        refine ⟨x :: earlier, later, rfl, ?_, ?_, ?_⟩
        · rcases hrepeat with (rfl | hseen) | hearlier
          · exact .inr List.mem_cons_self
          · exact .inl hseen
          · exact .inr (List.mem_cons_of_mem x hearlier)
        · exact List.nodup_cons.mpr ⟨fun hmem ↦ (hnew x hmem).1 rfl, hnodup⟩
        · exact List.forall_mem_cons.mpr ⟨hx, fun y hy ↦ (hnew y hy).2⟩
      · rintro ⟨earlier, later, hsplit, hrepeat, hnodup, hnew⟩
        cases earlier with
        | nil =>
          obtain ⟨rfl, -⟩ := List.cons.inj hsplit
          rcases hrepeat with hseen | hearlier
          · exact absurd hseen hx
          · exact absurd hearlier List.not_mem_nil
        | cons y ys =>
          obtain ⟨rfl, rfl⟩ := List.cons.inj hsplit
          obtain ⟨hmem, hnodup⟩ := List.nodup_cons.mp hnodup
          refine ⟨ys, later, rfl, ?_, hnodup, fun z hz ↦ ⟨?_, hnew z (List.mem_cons_of_mem x hz)⟩⟩
          · rw [List.mem_cons] at hrepeat
            rcases hrepeat with hseen | rfl | hearlier
            · exact .inl (.inr hseen)
            · exact .inl (.inl rfl)
            · exact .inr hearlier
          · rintro rfl
            exact hmem hz

/-- Where none was seen before, the repeat that is reported is the first id that occurs earlier. -/
theorem firstRepeat?_empty_eq_some_iff {ids : List UInt64} {id : UInt64} :
    firstRepeat? ∅ ids = some id ↔
      ∃ earlier later, ids = earlier ++ id :: later ∧ earlier.Nodup ∧ id ∈ earlier := by
  simp only [firstRepeat?_eq_some_iff, Std.TreeSet.not_mem_emptyc, false_or, not_false_iff,
    implies_true, and_true, and_comm (a := id ∈ _)]

/-- The ids of a set are distinct. -/
theorem nodup_ids (s : IdSet) : s.ids.Nodup :=
  s.ascending.imp UInt64.ne_of_lt

/-- A set is determined by its ids in whatever order: only the ascending one is kept. -/
theorem eq_of_perm {s t : IdSet} (h : s.ids.Perm t.ids) : s = t := by
  have hids : s.ids = t.ids :=
    h.eq_of_pairwise (fun a b _ _ hab hba ↦ absurd hba (UInt64.lt_asymm hab)) s.ascending
      t.ascending
  cases s
  cases t
  cases hids
  rfl

/-- Distinct ids make the set of which they are an order. -/
theorem ofList_eq_iff {ids : List UInt64} {s : IdSet} (hnodup : ids.Nodup) :
    ofList ids = s ↔ ids.Perm s.ids := by
  have hperm : ids.Perm (ofList ids).ids :=
    (List.perm_ext_iff_of_nodup hnodup (nodup_ids _)).mpr fun _ ↦ mem_ids_ofList.symm
  constructor
  · rintro rfl
    exact hperm
  · intro h
    exact eq_of_perm (hperm.symm.trans h)

/-! ### Reading a set -/

/-- A run of bytes is read as a set exactly if it is the ids of the set, each once, in some
order. -/
theorem decode_eq_ok_iff {bs : Bytes} {count : Nat} {s : IdSet} :
    decode bs count = .ok s ↔
      ∃ ids : List UInt64, ids.Perm s.ids ∧ ids.length = count ∧
        bs = ids.flatMap Bytes.ofUInt64 := by
  constructor
  · intro h
    rw [decode] at h
    split at h
    · next hlength =>
      split at h
      · cases h
      · next hnone =>
        have hnodup := (firstRepeat?_eq_none_iff.mp hnone).1
        cases h
        exact ⟨_, (ofList_eq_iff hnodup).mp rfl, words_eq_iff.mp ⟨hlength, rfl⟩⟩
    · cases h
  · rintro ⟨ids, hperm, hids⟩
    obtain ⟨hlength, hwords⟩ := words_eq_iff.mpr hids
    have hnodup : ids.Nodup := hperm.nodup_iff.mpr (nodup_ids s)
    have hnone : firstRepeat? ∅ ids = none :=
      firstRepeat?_eq_none_iff.mpr ⟨hnodup, fun id _ ↦ Std.TreeSet.not_mem_emptyc⟩
    rw [decode, if_pos hlength, hwords, hnone]
    exact congrArg Except.ok ((ofList_eq_iff hnodup).mpr hperm)

/-- A size is that of a run of ids exactly if it is so many times eight. -/
theorem countForSize_eq_ok_iff {size count : Nat} :
    countForSize size = .ok count ↔ size = encodedLength count := by
  rw [countForSize, encodedLength]
  split
  · rw [Except.ok.injEq]
    omega
  · constructor
    · intro h
      cases h
    · intro h
      omega

/-- Only a run that is no whole number of ids has no count. -/
theorem countForSize_eq_error_iff {size : Nat} {reason : ProtocolError} :
    countForSize size = .error reason ↔ size % 8 ≠ 0 ∧ reason = .malformedIdSet size := by
  unfold countForSize
  split
  · next hwhole =>
    constructor
    · intro h
      cases h
    · rintro ⟨hcut, -⟩
      exact absurd hwhole hcut
  · next hcut =>
    rw [Except.error.injEq]
    constructor
    · rintro rfl
      exact ⟨hcut, rfl⟩
    · rintro ⟨-, rfl⟩
      rfl

/-- A run of so many whole ids is refused only for the first id that occurs earlier. -/
theorem decode_eq_error_iff {bs : Bytes} {count : Nat} {reason : ProtocolError}
    (hlength : bs.length = encodedLength count) :
    decode bs count = .error reason ↔
      ∃ id, firstRepeat? ∅ (words count bs) = some id ∧ reason = .duplicateId id := by
  unfold decode
  rw [if_pos hlength]
  cases firstRepeat? ∅ (words count bs) with
  | none => simp
  | some id => simp [eq_comm]

end TopicWire.IdSet
