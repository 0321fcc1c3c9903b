import TopicWire.Proofs.DecodeFinality
import TopicWire.Reader

/-!
# A whole reading

`Reads` is what a byte string says when it is read to the end or to the first fault: the datagrams
in order, the bytes left over, and the fault if there is one. Every byte string has a reading
(`Reads.exists_reads`), and a reader that is drained carries it out: its items, its position and
its rest are those of the reading (`Reads.drain_eq`). A reading of a byte string goes on where it
stopped when more bytes arrive (`Reads.append`). A reader never leaves its byte string, however many
attempts it makes (`Reader.Within.take`).
-/

set_option autoImplicit false
set_option relaxedAutoImplicit false

namespace TopicWire

/-- The reading of a byte string: its datagrams, the bytes left over and the fault that stopped
it. -/
inductive Reads : Bytes → List Datagram → Bytes → Option Fault → Prop where
  | done : Reads [] [] [] none
  | stopped {buf : Bytes} {fault : Fault} (hne : buf ≠ [])
      (h : Datagram.decode buf = .error fault) : Reads buf [] buf (some fault)
  | next {buf rest : Bytes} {d : Datagram} {n : Nat} {ds : List Datagram} {stop : Option Fault}
      (h : Datagram.decode buf = .ok (d, n)) (tail : Reads (buf.drop n) ds rest stop) :
      Reads buf (d :: ds) rest stop

/-- The items of a reading: the datagrams, and then the fault if there is one. -/
def itemsOf (ds : List Datagram) (stop : Option Fault) : List Item :=
  ds.map Except.ok ++ (stop.map Except.error).toList

/-- An item that is an error comes after all the datagrams of a reading. -/
theorem eq_length_of_getElem?_itemsOf {ds : List Datagram} {stop : Option Fault} {i : Nat}
    {fault : Fault} (h : (itemsOf ds stop)[i]? = some (.error fault)) :
    i = ds.length ∧ stop = some fault := by
  rw [itemsOf, List.getElem?_append, List.length_map, List.getElem?_map] at h
  split at h
  · obtain ⟨d, -, hd⟩ := Option.map_eq_some_iff.mp h
    cases hd
  · next hge =>
    cases stop with
    | none => cases h
    | some fault' =>
      change ([Except.error fault'] : List Item)[i - ds.length]? = some (.error fault) at h
      rw [List.getElem?_singleton] at h
      split at h
      · next hzero =>
        cases h
        exact ⟨by omega, rfl⟩
      · cases h

namespace Reads

variable {buf rest : Bytes} {ds : List Datagram} {stop : Option Fault}

/-- Every byte string has a reading: each datagram leaves fewer bytes. -/
theorem exists_reads (buf : Bytes) : ∃ ds rest stop, Reads buf ds rest stop := by
  induction hlength : buf.length using Nat.strongRecOn generalizing buf with
  | ind length ih =>
    by_cases hne : buf = []
    · subst hne
      exact ⟨_, _, _, .done⟩
    · cases h : Datagram.decode buf with
      | error fault => exact ⟨_, _, _, .stopped hne h⟩
      | ok accepted =>
        obtain ⟨d, n⟩ := accepted
        have hpos := Datagram.consumed_pos h
        have hle := Datagram.consumed_le h
        have hshorter : (buf.drop n).length < length := by
          rw [List.length_drop]
          omega
        obtain ⟨ds, rest, stop, htail⟩ := ih _ hshorter (buf.drop n) rfl
        exact ⟨_, _, _, .next h htail⟩

/-- What is left over is the end of the byte string. -/
theorem rest_suffix (h : Reads buf ds rest stop) : rest <:+ buf := by
  induction h with
  | done => exact List.suffix_rfl
  | stopped hne h => exact List.suffix_rfl
  | next h tail ih => exact ih.trans (List.drop_suffix _ _)

/-- Bytes are left over only where a fault stopped the reading. -/
theorem rest_eq_nil (h : Reads buf ds rest none) : rest = [] := by
  generalize hstop : (none : Option Fault) = stop at h
  induction h with
  | done => rfl
  | stopped hne h => cases hstop
  | next h tail ih => exact ih hstop

/-- A fault is that of the bytes left over, and there are some. -/
theorem decode_rest {fault : Fault} (h : Reads buf ds rest (some fault)) :
    rest ≠ [] ∧ Datagram.decode rest = .error fault := by
  generalize hstop : some fault = stop at h
  induction h with
  | done => cases hstop
  | stopped hne h =>
    cases hstop
    exact ⟨hne, h⟩
  | next h tail ih => exact ih hstop

/-- A reading goes on where it stopped when more bytes arrive: the datagrams already read stay, and
the bytes left over are read again with the new ones. -/
theorem append {chunk rest' : Bytes} {ds' : List Datagram} {stop' : Option Fault}
    (h : Reads buf ds rest stop) (h' : Reads (rest ++ chunk) ds' rest' stop') :
    Reads (buf ++ chunk) (ds ++ ds') rest' stop' := by
  induction h with
  | done => exact h'
  | stopped hne h => exact h'
  | @next buf rest d n ds stop h tail ih =>
    have hdrop : (buf ++ chunk).drop n = buf.drop n ++ chunk :=
      List.drop_append_of_le_length (Datagram.consumed_le h)
    refine .next (Datagram.decode_append_of_ok h chunk) ?_
    rw [hdrop]
    exact ih h'

end Reads

namespace Reader

/-! ### One step of a reader -/

/-- A reader that has not failed attempts what lies before it. -/
theorem next?_of_ne_nil {buf : Bytes} (hne : buf ≠ []) (position : Nat) :
    next? ⟨position, buf, false⟩ =
      some (⟨position, buf, Datagram.decode buf⟩,
        after ⟨position, buf, false⟩ (Datagram.decode buf)) := by
  obtain ⟨code, bs, rfl⟩ := List.exists_cons_of_ne_nil hne
  rfl

theorem next?_of_ok {position n : Nat} {buf : Bytes} {d : Datagram}
    (h : Datagram.decode buf = .ok (d, n)) :
    next? ⟨position, buf, false⟩ =
      some (⟨position, buf, .ok (d, n)⟩, ⟨position + n, buf.drop n, false⟩) := by
  have hne : buf ≠ [] := by
    rintro rfl
    cases h
  rw [next?_of_ne_nil hne, h]
  rfl

theorem next?_of_error {position : Nat} {buf : Bytes} {fault : Fault} (hne : buf ≠ [])
    (h : Datagram.decode buf = .error fault) :
    next? ⟨position, buf, false⟩ =
      some (⟨position, buf, .error fault⟩, ⟨position, buf, true⟩) := by
  rw [next?_of_ne_nil hne, h]
  rfl

/-- A reader with nothing to attempt stays as it is. -/
theorem take_of_next?_eq_none {r : Reader} (h : r.next? = none) (count : Nat) :
    take count r = ([], r) := by
  cases count with
  | zero => rfl
  | succ count => rw [take, h]

theorem take_succ_of_next?_eq_some {r r' : Reader} {attempt : Attempt}
    (h : r.next? = some (attempt, r')) (count : Nat) :
    take (count + 1) r = (attempt :: (take count r').1, (take count r').2) := by
  rw [take, h]

/-! ### A reader stays inside its byte string -/

/-- A reader stands inside a byte string, with what lies after its place in hand. -/
structure Within (buf : Bytes) (r : Reader) : Prop where
  position_le : r.position ≤ buf.length
  rest_eq : r.rest = buf.drop r.position

variable {buf : Bytes} {r r' : Reader}

theorem within_ofBytes (buf : Bytes) : Within buf (ofBytes buf) :=
  ⟨Nat.zero_le _, rfl⟩

/-- An attempt leaves the reader inside: a datagram occupies no more bytes than there are. -/
theorem Within.next {attempt : Attempt} (h : Within buf r)
    (hnext : r.next? = some (attempt, r')) : Within buf r' := by
  unfold next? at hnext
  split at hnext
  · cases hnext
  · cases hnext
    obtain ⟨hposition, hrest⟩ := h
    unfold after
    split
    · next d consumed houtcome =>
      have hle := Datagram.consumed_le houtcome
      rw [hrest, List.length_drop] at hle
      refine ⟨?_, ?_⟩
      · show r.position + consumed ≤ buf.length
        omega
      · show r.rest.drop consumed = buf.drop (r.position + consumed)
        rw [hrest, List.drop_drop]
    · exact ⟨hposition, hrest⟩

/-- However many attempts are made, the reader stays inside. -/
theorem Within.take (h : Within buf r) (count : Nat) : Within buf (Reader.take count r).2 := by
  induction count generalizing r with
  | zero => exact h
  | succ count ih =>
    cases hnext : r.next? with
    | none =>
      rw [take_of_next?_eq_none hnext]
      exact h
    | some step =>
      rw [take_succ_of_next?_eq_some hnext]
      exact ih (h.next hnext)

end Reader

/-! ### Draining a reader -/

namespace Reads

variable {buf rest : Bytes} {ds : List Datagram} {stop : Option Fault}

/-- As many attempts as there are bytes carry out the whole reading, from whatever position. -/
theorem take_eq (h : Reads buf ds rest stop) {count : Nat} (hcount : buf.length ≤ count)
    (position : Nat) :
    (Reader.take count ⟨position, buf, false⟩).1.map Attempt.item = itemsOf ds stop ∧
      (Reader.take count ⟨position, buf, false⟩).2 =
        ⟨position + (buf.length - rest.length), rest, stop.isSome⟩ := by
  induction h generalizing count position with
  | done =>
    rw [Reader.take_of_next?_eq_none rfl]
    exact ⟨rfl, rfl⟩
  | @stopped buf fault hne h =>
    obtain ⟨count, rfl⟩ : ∃ fewer, count = fewer + 1 := by
      have hpos := List.length_pos_iff.mpr hne
      exact ⟨count - 1, by omega⟩
    rw [Reader.take_succ_of_next?_eq_some (Reader.next?_of_error hne h),
      Reader.take_of_next?_eq_none rfl, Nat.sub_self]
    exact ⟨rfl, rfl⟩
  | @next buf rest d n ds stop h tail ih =>
    have hpos := Datagram.consumed_pos h
    have hle := Datagram.consumed_le h
    have hrest := tail.rest_suffix.length_le
    rw [List.length_drop] at hrest
    obtain ⟨count, rfl⟩ : ∃ fewer, count = fewer + 1 := ⟨count - 1, by omega⟩
    have hfewer : (buf.drop n).length ≤ count := by
      rw [List.length_drop]
      omega
    obtain ⟨hitems, hreader⟩ := ih hfewer (position + n)
    have hposition : position + n + ((buf.drop n).length - rest.length) =
        position + (buf.length - rest.length) := by
      rw [List.length_drop]
      omega
    rw [Reader.take_succ_of_next?_eq_some (Reader.next?_of_ok h)]
    refine ⟨?_, ?_⟩
    · rw [List.map_cons, hitems]
      rfl
    · rw [hreader, hposition]

/-- Draining a reader carries out the reading of its byte string. -/
theorem drain_eq (h : Reads buf ds rest stop) :
    (Reader.ofBytes buf).drain.1.map Attempt.item = itemsOf ds stop ∧
      (Reader.ofBytes buf).drain.2 =
        ⟨buf.length - rest.length, rest, stop.isSome⟩ := by
  have hdrain := h.take_eq (Nat.le_refl _) 0
  rwa [Nat.zero_add] at hdrain

end Reads

end TopicWire
