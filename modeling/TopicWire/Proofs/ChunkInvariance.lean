import TopicWire.Proofs.ReaderRun
import TopicWire.Receiver

/-!
# Chunks make no difference

A receiver that takes in a byte string in chunks, however it is cut, reads what one reader reads
over the whole. A round carries out the reading of the bytes it finds (`Receiver.receive_eq`), and
the rounds together make up the reading of everything received so far
(`Receiver.receiveAll_of_reads`). This holds of faulty bytes too: a fault that more bytes cannot
lift is found again in every later round.
-/

set_option autoImplicit false
set_option relaxedAutoImplicit false

namespace TopicWire

/-- The datagrams among the items. -/
def datagramsOf (items : List Item) : List Datagram := items.filterMap Except.toOption

/-- The fault that the items end with, if they do. -/
def endFault? (items : List Item) : Option Fault :=
  items.getLast?.bind fun item ↦
    match item with
    | .ok _ => none
    | .error fault => some fault

theorem datagramsOf_itemsOf (ds : List Datagram) (stop : Option Fault) :
    datagramsOf (itemsOf ds stop) = ds := by
  have hds : (ds.map Except.ok : List Item).filterMap Except.toOption = ds := by
    rw [List.filterMap_map]
    exact List.filterMap_some
  unfold datagramsOf itemsOf
  cases stop with
  | none =>
    rw [Option.map_none, Option.toList_none, List.append_nil]
    exact hds
  | some fault =>
    rw [List.filterMap_append, hds]
    exact List.append_nil ds

theorem datagramsOf_concat_ok (items : List Item) (d : Datagram) :
    datagramsOf (items ++ [.ok d]) = datagramsOf items ++ [d] :=
  List.filterMap_append

theorem datagramsOf_concat_error (items : List Item) (fault : Fault) :
    datagramsOf (items ++ [.error fault]) = datagramsOf items :=
  List.filterMap_append.trans (List.append_nil _)

theorem endFault?_itemsOf (ds : List Datagram) (stop : Option Fault) :
    endFault? (itemsOf ds stop) = stop := by
  unfold endFault? itemsOf
  cases stop with
  | none =>
    rw [Option.map_none, Option.toList_none, List.append_nil, List.getLast?_map]
    cases ds.getLast? <;> rfl
  | some fault =>
    rw [Option.map_some, Option.toList_some, List.getLast?_concat]
    rfl

namespace Receiver

variable {past rest : Bytes} {ds : List Datagram} {stop : Option Fault}

/-! ### One round -/

/-- A round carries out the reading of what was pending and the chunk, and leaves its rest
pending. -/
theorem receive_eq {pending chunk : Bytes} (h : Reads (pending ++ chunk) ds rest stop) :
    (receive ⟨pending⟩ chunk).1.items = itemsOf ds stop ∧
      (receive ⟨pending⟩ chunk).2 = ⟨rest⟩ := by
  obtain ⟨hitems, hreader⟩ := h.drain_eq
  refine ⟨hitems, ?_⟩
  have hrest := List.suffix_iff_eq_drop.mp h.rest_suffix
  show Receiver.mk ((pending ++ chunk).drop
    (Reader.ofBytes (pending ++ chunk)).drain.2.position) = _
  rw [hreader, ← hrest]

/-! ### All rounds -/

theorem receiveAll_cons (receiver : Receiver) (chunk : Bytes) (chunks : List Bytes) :
    receiver.receiveAll (chunk :: chunks) =
      ((receiver.receive chunk).1 :: ((receiver.receive chunk).2.receiveAll chunks).1,
        ((receiver.receive chunk).2.receiveAll chunks).2) := rfl

/-- There is a round for each chunk. -/
theorem length_receiveAll (receiver : Receiver) (chunks : List Bytes) :
    (receiver.receiveAll chunks).1.length = chunks.length := by
  induction chunks generalizing receiver with
  | nil => rfl
  | cons chunk chunks ih => rw [receiveAll_cons, List.length_cons, List.length_cons, ih]

/-- When a receiver has read `past` and kept its rest, the next rounds add what the reading of
`past` lacks for a reading of all the bytes. The fault of the last round, or the old one if there
is no round, is where that reading stops. -/
theorem receiveAll_of_reads (h : Reads past ds rest stop) (chunks : List Bytes) :
    ∃ ds' rest' stop', Reads (past ++ chunks.flatten) (ds ++ ds') rest' stop' ∧
      (receiveAll ⟨rest⟩ chunks).1.flatMap (fun round ↦ datagramsOf round.items) = ds' ∧
      (receiveAll ⟨rest⟩ chunks).2 = ⟨rest'⟩ ∧
      (receiveAll ⟨rest⟩ chunks).1.getLast?.elim stop (fun round ↦ endFault? round.items) =
        stop' := by
  induction chunks generalizing past ds rest stop with
  | nil =>
    refine ⟨[], rest, stop, ?_, rfl, rfl, rfl⟩
    rwa [List.flatten_nil, List.append_nil, List.append_nil]
  | cons chunk chunks ih =>
    obtain ⟨dsₙ, restₙ, stopₙ, hround⟩ := Reads.exists_reads (rest ++ chunk)
    obtain ⟨hitems, hpending⟩ := receive_eq hround
    obtain ⟨ds', rest', stop', hreads, hds, hrest, hstop⟩ := ih (h.append hround)
    refine ⟨dsₙ ++ ds', rest', stop', ?_, ?_, ?_, ?_⟩
    · rwa [List.flatten_cons, ← List.append_assoc, ← List.append_assoc]
    · rw [receiveAll_cons, hpending, List.flatMap_cons, hitems, datagramsOf_itemsOf, hds]
    · rw [receiveAll_cons, hpending]
      exact hrest
    · rw [receiveAll_cons, hpending, List.getLast?_cons, Option.elim_some]
      -- The round just made is the last one exactly when no chunk is left.
      cases hlast : (receiveAll ⟨restₙ⟩ chunks).1.getLast? with
      | none =>
        rw [hlast, Option.elim_none] at hstop
        rw [Option.getD_none, hitems, endFault?_itemsOf, hstop]
      | some last =>
        rw [hlast, Option.elim_some] at hstop
        exact hstop

/-- However a byte string is cut into chunks, the rounds read from it what one reader reads from
the whole: the same datagrams in the same order, the same bytes left over, and at the end of the
last round the same fault or none. -/
theorem receiveAll_eq_drain_flatten (chunks : List Bytes) :
    (empty.receiveAll chunks).1.flatMap (fun round ↦ datagramsOf round.items) =
        datagramsOf (Reader.items chunks.flatten) ∧
      (empty.receiveAll chunks).2.pending = (Reader.ofBytes chunks.flatten).drain.2.rest ∧
      (empty.receiveAll chunks).1.length = chunks.length ∧
      (empty.receiveAll chunks).1.getLast?.bind (fun round ↦ endFault? round.items) =
        endFault? (Reader.items chunks.flatten) := by
  obtain ⟨ds, rest, stop, hreads, hds, hrest, hstop⟩ := receiveAll_of_reads .done chunks
  obtain ⟨hitems, hreader⟩ := hreads.drain_eq
  rw [List.nil_append] at hitems hreader
  refine ⟨?_, ?_, length_receiveAll empty chunks, ?_⟩
  · rw [Reader.items, hitems, datagramsOf_itemsOf]
    exact hds
  · rw [hreader]
    exact congrArg Receiver.pending hrest
  · rw [Reader.items, hitems, endFault?_itemsOf, ← hstop]
    change (empty.receiveAll chunks).1.getLast?.bind _ =
      (empty.receiveAll chunks).1.getLast?.elim none _
    cases (empty.receiveAll chunks).1.getLast? <;> rfl

end Receiver

end TopicWire
