import Mathlib.Data.List.Basic
import Mathlib.Tactic.Tauto
import TopicWire.Proofs.IdSetOrderings

/-!
# What leads from one set of ids to another

A patch has ids to take out of a set and ids to put into it (`IdSet.eraseAll`, `IdSet.insertAll`).
`IdSet.diff` is a patch, and the patches that lead from one set to another are told by it: they have
all of its ids, put in nothing that does not belong, and put back what they should not have taken
out (`IdSet.insertAll_eraseAll_eq_iff`). So it is the least of them.

Each list of a difference has the ids that one set has and the other lacks (`IdSet.mem_added`,
`IdSet.mem_removed`). What the two sets share counts alike in both, so it cancels when their sizes
are compared (`IdSet.size_eq_shared_add`, `IdSet.length_shared_comm`).
-/

set_option autoImplicit false
set_option relaxedAutoImplicit false

namespace TopicWire.IdSet

variable {s t target current : IdSet} {ids added removed : List UInt64} {id : UInt64}

/-! ### Patches -/

/-- A set with the ids of a list put in. -/
def insertAll (s : IdSet) (ids : List UInt64) : IdSet := ofList (s.ids ++ ids)

/-- A set with the ids of a list taken out. -/
def eraseAll (s : IdSet) (ids : List UInt64) : IdSet where
  ids := s.ids.filter (· ∉ ids)
  ascending := s.ascending.filter _

theorem mem_insertAll : id ∈ (s.insertAll ids).ids ↔ id ∈ s.ids ∨ id ∈ ids := by
  rw [insertAll, mem_ids_ofList, List.mem_append]

theorem mem_eraseAll : id ∈ (s.eraseAll ids).ids ↔ id ∈ s.ids ∧ id ∉ ids := by
  rw [eraseAll, List.mem_filter, decide_eq_true_iff]

/-- Sets are equal if they have the same members. -/
theorem eq_iff_mem : s = t ↔ ∀ id, id ∈ s.ids ↔ id ∈ t.ids := by
  constructor
  · rintro rfl id
    rfl
  · intro h
    exact eq_of_perm ((List.perm_ext_iff_of_nodup (nodup_ids s) (nodup_ids t)).mpr h)

/-! ### The difference -/

theorem mem_without (s t : IdSet) : id ∈ without s.ids t.ids ↔ id ∈ s.ids ∧ id ∉ t.ids := by
  rw [without_eq_filter s.ascending t.ascending, List.mem_filter, decide_eq_true_iff]

theorem ascending_without (s t : IdSet) : (without s.ids t.ids).Pairwise (· < ·) := by
  rw [without_eq_filter s.ascending t.ascending]
  exact s.ascending.filter _

/-- The ids of a set are those that it shares with a second set and those that the second lacks. -/
theorem size_eq_shared_add (s t : IdSet) :
    s.size = (s.ids.filter (· ∈ t.ids)).length + (without s.ids t.ids).length := by
  rw [without_eq_filter s.ascending t.ascending, size,
    List.length_eq_length_filter_add (fun id ↦ decide (id ∈ t.ids))]
  simp only [decide_not]

/-- Two sets share as much with each other. -/
theorem length_shared_comm (s t : IdSet) :
    (s.ids.filter (· ∈ t.ids)).length = (t.ids.filter (· ∈ s.ids)).length := by
  refine List.Perm.length_eq ?_
  refine (List.perm_ext_iff_of_nodup ((nodup_ids s).filter _) ((nodup_ids t).filter _)).mpr ?_
  intro id
  simp only [List.mem_filter, decide_eq_true_iff, and_comm]

theorem mem_added : id ∈ (diff target current).1 ↔ id ∈ target.ids ∧ id ∉ current.ids :=
  mem_without target current

theorem mem_removed : id ∈ (diff target current).2 ↔ id ∈ current.ids ∧ id ∉ target.ids :=
  mem_without current target

/-! ### All patches -/

/-- A patch leads to a set exactly if it puts in what the difference does and nothing from outside
the set, takes out what the difference does, and puts back what it takes out of the set itself. -/
theorem insertAll_eraseAll_eq_iff :
    (current.eraseAll removed).insertAll added = target ↔
      ((diff target current).1 ⊆ added ∧ added ⊆ target.ids) ∧
        (diff target current).2 ⊆ removed ∧
          ∀ id ∈ removed, id ∈ target.ids → id ∈ added := by
  simp only [eq_iff_mem, mem_insertAll, mem_eraseAll, List.subset_def, mem_added, mem_removed,
    ← forall_and]
  exact forall_congr' fun id ↦ by tauto

/-- The difference of two sets is the least patch that leads from one to the other. Both of its
lists ascend and they have no id in common: the ids to put in are those that only the target has,
and the ids to take out those that it lacks. Applied in either order they make the target, and
whatever else makes it puts in and takes out at least as much. The way back is the same patch with
its parts exchanged, and the sizes of the sets differ as the lengths of the parts. -/
theorem diff_least_patch (target current : IdSet) :
    let added := (diff target current).1
    let removed := (diff target current).2
    (added.Pairwise (· < ·) ∧ removed.Pairwise (· < ·) ∧ added.Disjoint removed) ∧
      (∀ id, (id ∈ added ↔ id ∈ target.ids ∧ id ∉ current.ids) ∧
        (id ∈ removed ↔ id ∈ current.ids ∧ id ∉ target.ids)) ∧
      ((current.eraseAll removed).insertAll added = target ∧
        (current.insertAll added).eraseAll removed = target) ∧
      (∀ more less, (current.eraseAll less).insertAll more = target →
        added ⊆ more ∧ removed ⊆ less) ∧
      diff current target = (removed, added) ∧
      target.size + removed.length = current.size + added.length := by
  intro added removed
  have hadded : ∀ id, id ∈ added ↔ id ∈ target.ids ∧ id ∉ current.ids := fun _ ↦ mem_added
  have hremoved : ∀ id, id ∈ removed ↔ id ∈ current.ids ∧ id ∉ target.ids := fun _ ↦ mem_removed
  refine ⟨⟨ascending_without target current, ascending_without current target, ?_⟩,
    fun id ↦ ⟨hadded id, hremoved id⟩, ⟨?_, ?_⟩, ?_, rfl, ?_⟩
  · intro id hin hout
    exact ((hremoved id).mp hout).2 ((hadded id).mp hin).1
  · refine insertAll_eraseAll_eq_iff.mpr ⟨⟨List.Subset.refl _, ?_⟩, List.Subset.refl _, ?_⟩
    · exact fun id hid ↦ ((hadded id).mp hid).1
    · exact fun id hid htarget ↦ absurd htarget ((hremoved id).mp hid).2
  · -- Taking out comes last, and none of the ids put in is among those taken out.
    refine eq_iff_mem.mpr fun id ↦ ?_
    rw [mem_eraseAll, mem_insertAll, hadded, hremoved]
    tauto
  · intro more less h
    obtain ⟨⟨hmore, -⟩, hless, -⟩ := insertAll_eraseAll_eq_iff.mp h
    exact ⟨hmore, hless⟩
  · have hshared := length_shared_comm target current
    show target.size + (without current.ids target.ids).length =
      current.size + (without target.ids current.ids).length
    rw [size_eq_shared_add target current, size_eq_shared_add current target]
    omega

end TopicWire.IdSet
