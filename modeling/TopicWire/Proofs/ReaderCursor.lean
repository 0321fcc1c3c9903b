import TopicWire.Proofs.ChunkInvariance
import TopicWire.Proofs.RefusalOrder
import TopicWire.Proofs.StreamRoundTrip

/-!
# A reader is a cursor

A reader may be asked for its items in many ways: for the next one, for one further on, for some of
them, for their number, for all that are left. Whatever it is asked and in whatever order, it walks
once along the items of its byte string. `Reader.ahead` is what lies before it. Each step takes one
item off the front of it (`Reader.Yields.ahead_eq`), and every `Reader.Demand` is so many steps
(`Reader.serve_reader`), answered by the items that they pass (`Reader.serve_answer`). What the
reader has passed fixes where it stands (`Reader.StandsAfter`): a step keeps this
(`Reader.StandsAfter.yields`), and so does a run of demands (`Reader.StandsAfter.serveAll`).
`Reader.serveAll_ofBytes` puts the two together.
-/

set_option autoImplicit false
set_option relaxedAutoImplicit false

namespace TopicWire

/-! ### What one attempt finds -/

/-- Bytes that are there are refused neither for want of a first one, nor for another kind than was
asked for, nor for a payload that no size field can say. -/
theorem Refused.of_ne_nil {buf : Bytes} {reason : ProtocolError} (h : Refused buf reason)
    (hne : buf ≠ []) :
    reason ≠ .empty ∧ (∀ expected found, reason ≠ .unexpectedType expected found) ∧
      ∀ len max, reason ≠ .payloadTooLarge len max := by
  cases h with
  | empty => exact absurd rfl hne
  | _ => simp

/-- A datagram occupies as many bytes as are counted for it without writing. -/
theorem Datagram.consumed_eq {buf : Bytes} {d : Datagram} {n : Nat}
    (h : decode buf = .ok (d, n)) : n = d.encodedLength := by
  rw [← (wireForm_of_decode h).length_eq, List.length_take_of_le (consumed_le h)]

namespace Reader

/-! ### One step -/

/-- One step of a reader: it passes a datagram, or it finds a fault and stays before it. -/
inductive Yields : Reader → Item → Reader → Prop where
  | datagram {position n : Nat} {buf : Bytes} {d : Datagram}
      (h : Datagram.decode buf = .ok (d, n)) :
      Yields ⟨position, buf, false⟩ (.ok d) ⟨position + n, buf.drop n, false⟩
  | fault {position : Nat} {buf : Bytes} {fault : Fault} (hne : buf ≠ [])
      (h : Datagram.decode buf = .error fault) :
      Yields ⟨position, buf, false⟩ (.error fault) ⟨position, buf, true⟩

/-- The items that lie before a reader. -/
def ahead (r : Reader) : List Item := r.drain.1.map Attempt.item

variable {r r' : Reader} {attempt : Attempt} {item : Item}

theorem yields_of_next? (h : r.next? = some (attempt, r')) : Yields r attempt.item r' := by
  obtain ⟨position, buf, failed⟩ := r
  cases failed with
  | true => cases h
  | false =>
    cases buf with
    | nil => cases h
    | cons code bs =>
      have hne : code :: bs ≠ [] := List.cons_ne_nil code bs
      cases hdecode : Datagram.decode (code :: bs) with
      | ok accepted =>
        obtain ⟨d, n⟩ := accepted
        cases (next?_of_ok hdecode).symm.trans h
        exact .datagram hdecode
      | error fault =>
        cases (next?_of_error hne hdecode).symm.trans h
        exact .fault hne hdecode

theorem ahead_of_next?_eq_none (h : r.next? = none) : r.ahead = [] := by
  rw [ahead, drain, take_of_next?_eq_none h]
  rfl

/-- A step takes the first of the items ahead. -/
theorem Yields.ahead_eq (h : Yields r item r') : r.ahead = item :: r'.ahead := by
  cases h with
  | @datagram position n buf d h =>
    obtain ⟨ds, rest, stop, hreads⟩ := Reads.exists_reads (buf.drop n)
    have hbefore := ((Reads.next h hreads).take_eq (Nat.le_refl _) position).1
    have hafter := (hreads.take_eq (Nat.le_refl _) (position + n)).1
    exact hbefore.trans (congrArg (Except.ok d :: ·) hafter.symm)
  | @fault position buf fault hne h =>
    rw [ahead_of_next?_eq_none (r := ⟨position, buf, true⟩) rfl]
    exact ((Reads.stopped hne h).take_eq (Nat.le_refl _) position).1

/-- A reader has nothing to attempt exactly if nothing lies ahead. -/
theorem next?_eq_none_iff : r.next? = none ↔ r.ahead = [] := by
  constructor
  · exact ahead_of_next?_eq_none
  · intro h
    cases hnext : r.next? with
    | none => rfl
    | some step =>
      have hahead := (yields_of_next? hnext).ahead_eq
      rw [h] at hahead
      cases hahead

/-! ### Many steps -/

theorem length_take_le (count : Nat) (r : Reader) : (take count r).1.length ≤ count := by
  induction count generalizing r with
  | zero => exact Nat.le_refl 0
  | succ count ih =>
    cases hnext : r.next? with
    | none =>
      rw [take_of_next?_eq_none hnext]
      exact Nat.zero_le _
    | some step =>
      rw [take_succ_of_next?_eq_some hnext, List.length_cons]
      exact Nat.succ_le_succ (ih _)

/-- No more items lie ahead than bytes. -/
theorem length_ahead_le (r : Reader) : r.ahead.length ≤ r.remaining := by
  rw [ahead, List.length_map]
  exact length_take_le _ r

/-- So many steps take so many of the items ahead, and leave the others. -/
theorem take_eq_ahead (count : Nat) (r : Reader) :
    (take count r).1.map Attempt.item = r.ahead.take count ∧
      (take count r).2.ahead = r.ahead.drop count := by
  induction count generalizing r with
  | zero => exact ⟨rfl, rfl⟩
  | succ count ih =>
    cases hnext : r.next? with
    | none =>
      rw [take_of_next?_eq_none hnext, ahead_of_next?_eq_none hnext]
      exact ⟨rfl, rfl⟩
    | some step =>
      obtain ⟨hitems, hahead⟩ := ih step.2
      rw [take_succ_of_next?_eq_some hnext, (yields_of_next? hnext).ahead_eq]
      exact ⟨congrArg (step.1.item :: ·) hitems, hahead⟩

/-- Steps in two goes are steps in one. -/
theorem take_add (m n : Nat) (r : Reader) :
    (take (m + n) r).2 = (take n (take m r).2).2 := by
  induction m generalizing r with
  | zero => rw [Nat.zero_add, take]
  | succ m ih =>
    rw [Nat.add_right_comm]
    cases hnext : r.next? with
    | none => rw [take_of_next?_eq_none hnext, take_of_next?_eq_none hnext,
        take_of_next?_eq_none hnext]
    | some step =>
      rw [take_succ_of_next?_eq_some hnext, take_succ_of_next?_eq_some hnext]
      exact ih step.2

/-! ### Demands -/

/-- A way to ask a reader for its items. -/
inductive Demand where
  /-- The next item. -/
  | next
  /-- The item after so many, which are skipped. -/
  | nth (skipped : Nat)
  /-- So many items, or all that are left if these are fewer. -/
  | take (count : Nat)
  /-- The number of the items left. -/
  | count
  /-- The items left. -/
  | drain
  deriving DecidableEq, Repr

/-- What a reader answers. -/
inductive Answer where
  | item (item : Option Item)
  | items (items : List Item)
  | number (count : Nat)

/-- What a reader answers to a demand, and the reader after it. -/
def serve (demand : Demand) (r : Reader) : Answer × Reader :=
  match demand with
  | .next =>
    match r.next? with
    | none => (.item none, r)
    | some (attempt, r') => (.item (some attempt.item), r')
  | .nth skipped => (.item ((nth skipped r).1.map Attempt.item), (nth skipped r).2)
  | .take wanted => (.items ((take wanted r).1.map Attempt.item), (take wanted r).2)
  | .count => (.number (count r).1, (count r).2)
  | .drain => (.items (r.drain.1.map Attempt.item), r.drain.2)

/-- What a reader answers to demands in a row, and the reader after them. -/
def serveAll : List Demand → Reader → List Answer × Reader
  | [], r => ([], r)
  | demand :: demands, r =>
    let (answer, r) := serve demand r
    let (answers, r) := serveAll demands r
    (answer :: answers, r)

namespace Demand

/-- How many of so many items a demand hands out or skips. -/
def reach (demand : Demand) (available : Nat) : Nat :=
  match demand with
  | .next => 1
  | .nth skipped => skipped + 1
  | .take wanted => wanted
  | .count | .drain => available

/-- What a demand is answered when it passes the given items. -/
def answer (demand : Demand) (passed : List Item) : Answer :=
  match demand with
  | .next => .item passed.head?
  | .nth skipped => .item passed[skipped]?
  | .take _ | .drain => .items passed
  | .count => .number passed.length

end Demand

/-- The items that demands in a row hand out or skip, demand by demand, when these lie ahead. -/
def passedBy : List Demand → List Item → List (List Item)
  | [], _ => []
  | demand :: demands, items =>
    let reach := demand.reach items.length
    items.take reach :: passedBy demands (items.drop reach)

/-- The reader after the next step, or the same if there is none. -/
theorem take_one (r : Reader) : (take 1 r).2 = (r.next?.map Prod.snd).getD r := by
  cases hnext : r.next? with
  | none => rw [take_of_next?_eq_none hnext, Option.map_none, Option.getD_none]
  | some step => rw [take_succ_of_next?_eq_some hnext]; rfl

theorem item_of_next? (r : Reader) :
    (r.next?.map Prod.fst).map Attempt.item = r.ahead.head? := by
  cases hnext : r.next? with
  | none => rw [ahead_of_next?_eq_none hnext]; rfl
  | some step => rw [(yields_of_next? hnext).ahead_eq]; rfl

/-- Draining makes as many steps as items lie ahead: what it may make more are none. -/
theorem drain_eq_take (r : Reader) : r.drain.2 = (take r.ahead.length r).2 := by
  obtain ⟨more, hmore⟩ := Nat.exists_eq_add_of_le (length_ahead_le r)
  have hdone : (take r.ahead.length r).2.next? = none := by
    rw [next?_eq_none_iff, (take_eq_ahead _ r).2, List.drop_length]
  rw [drain, hmore, take_add, take_of_next?_eq_none hdone]

/-- A demand is so many steps. -/
theorem serve_reader (demand : Demand) (r : Reader) :
    (serve demand r).2 = (take (demand.reach r.ahead.length) r).2 := by
  cases demand with
  | next =>
    rw [Demand.reach, take_one, serve]
    cases r.next? <;> rfl
  | nth skipped =>
    rw [Demand.reach, take_add, take_one, serve, nth]
    dsimp only
    cases (take skipped r).2.next? <;> rfl
  | take wanted => rfl
  | count => exact drain_eq_take r
  | drain => exact drain_eq_take r

/-- A demand is answered by the items that it passes. -/
theorem serve_answer (demand : Demand) (r : Reader) :
    (serve demand r).1 = demand.answer (r.ahead.take (demand.reach r.ahead.length)) := by
  cases demand with
  | next =>
    rw [Demand.answer, Demand.reach, List.head?_take, if_neg Nat.one_ne_zero, ← item_of_next?,
      serve]
    cases r.next? <;> rfl
  | nth skipped =>
    rw [Demand.answer, Demand.reach, List.getElem?_take_of_lt (Nat.lt_succ_self skipped),
      ← List.head?_drop, ← (take_eq_ahead skipped r).2, ← item_of_next?, serve, nth]
    dsimp only
    cases (take skipped r).2.next? <;> rfl
  | take wanted => exact congrArg Answer.items (take_eq_ahead wanted r).1
  | count =>
    rw [Demand.reach, List.take_length, ahead, Demand.answer, List.length_map]
    rfl
  | drain =>
    rw [Demand.reach, List.take_length]
    rfl

/-- Demands in a row are answered, each by the items that it passes. -/
theorem serveAll_answers (demands : List Demand) (r : Reader) :
    (serveAll demands r).1 = List.zipWith Demand.answer demands (passedBy demands r.ahead) := by
  induction demands generalizing r with
  | nil => rfl
  | cons demand demands ih =>
    rw [passedBy, List.zipWith_cons_cons, ← serve_answer, ← (take_eq_ahead _ r).2,
      ← serve_reader, ← ih]
    rfl

/-! ### The end -/

/-- A reader with nothing to attempt stays as it is, whatever it is asked. -/
theorem serveAll_of_next?_eq_none {r : Reader} (h : r.next? = none) (demands : List Demand) :
    (serveAll demands r).2 = r := by
  induction demands with
  | nil => rfl
  | cons demand demands ih =>
    have hserve : (serve demand r).2 = r := by rw [serve_reader, take_of_next?_eq_none h]
    show (serveAll demands (serve demand r).2).2 = r
    rw [hserve, ih]

/-- Once a reader was drained it has nothing to attempt. -/
theorem next?_serveAll_of_drain {demands : List Demand} (h : .drain ∈ demands) (r : Reader) :
    (serveAll demands r).2.next? = none := by
  induction h generalizing r with
  | head demands =>
    have hdrained : (serve .drain r).2.next? = none := by
      rw [next?_eq_none_iff, serve_reader, (take_eq_ahead _ r).2]
      exact List.drop_length
    show (serveAll demands (serve .drain r).2).2.next? = none
    rw [serveAll_of_next?_eq_none hdrained, hdrained]
  | tail demand _ ih => exact ih _

/-! ### Where a reader stands -/

/-- Where a reader stands that has passed the given items of a byte string. -/
structure StandsAfter (buf : Bytes) (passed : List Item) (r : Reader) : Prop where
  items_eq : passed ++ r.ahead = items buf
  within : Within buf r
  position_eq : r.position = Datagram.encodedLengths (datagramsOf passed)
  failed_iff : r.failed = true ↔ ∃ fault, passed.getLast? = some (.error fault)
  rest_ne_nil : r.failed = true → r.rest ≠ []

namespace StandsAfter

variable {buf : Bytes} {passed : List Item} {r r' : Reader}

theorem start (buf : Bytes) : StandsAfter buf [] (ofBytes buf) where
  items_eq := rfl
  within := within_ofBytes buf
  position_eq := rfl
  failed_iff := ⟨fun h ↦ (Bool.false_ne_true h).elim, fun ⟨_, h⟩ ↦ by cases h⟩
  rest_ne_nil h := (Bool.false_ne_true h).elim

/-- A step passes one item. -/
theorem yields {item : Item} (h : StandsAfter buf passed r) (hstep : Yields r item r') :
    StandsAfter buf (passed ++ [item]) r' := by
  have hitems : passed ++ [item] ++ r'.ahead = items buf := by
    rw [List.append_assoc, List.singleton_append, ← hstep.ahead_eq]
    exact h.items_eq
  cases hstep with
  | @datagram position n _ d hdecode =>
    have hposition : position + n = Datagram.encodedLengths (datagramsOf (passed ++ [.ok d])) := by
      rw [datagramsOf_concat_ok, Datagram.encodedLengths_concat, ← h.position_eq,
        Datagram.consumed_eq hdecode]
    exact {
      items_eq := hitems
      within := h.within.next (next?_of_ok hdecode)
      position_eq := hposition
      failed_iff := by simp
      rest_ne_nil := fun hfailed ↦ (Bool.false_ne_true hfailed).elim }
  | fault hne hdecode =>
    exact {
      items_eq := hitems
      within := h.within.next (next?_of_error hne hdecode)
      position_eq := by rw [datagramsOf_concat_error]; exact h.position_eq
      failed_iff := by simp
      rest_ne_nil := fun _ ↦ hne }

/-- Steps pass as many items as they are, or all. -/
theorem take (h : StandsAfter buf passed r) (count : Nat) :
    StandsAfter buf (passed ++ r.ahead.take count) (Reader.take count r).2 := by
  induction count generalizing passed r with
  | zero =>
    rw [List.take_zero, List.append_nil]
    exact h
  | succ count ih =>
    cases hnext : r.next? with
    | none =>
      rw [take_of_next?_eq_none hnext, ahead_of_next?_eq_none hnext, List.take_nil,
        List.append_nil]
      exact h
    | some step =>
      have hstep := yields_of_next? hnext
      rw [take_succ_of_next?_eq_some hnext, hstep.ahead_eq, List.take_succ_cons,
        ← List.singleton_append, ← List.append_assoc]
      exact ih (h.yields hstep)

/-- A drained reader has passed all items. -/
theorem drain (buf : Bytes) : StandsAfter buf (items buf) (ofBytes buf).drain.2 := by
  have h := (start buf).take (ofBytes buf).remaining
  rwa [List.nil_append, List.take_of_length_le (length_ahead_le (ofBytes buf))] at h

/-- Demands in a row pass items demand by demand. -/
theorem serveAll (h : StandsAfter buf passed r) (demands : List Demand) :
    StandsAfter buf (passed ++ (passedBy demands r.ahead).flatten)
      (Reader.serveAll demands r).2 := by
  induction demands generalizing passed r with
  | nil =>
    rw [passedBy, List.flatten_nil, List.append_nil]
    exact h
  | cons demand demands ih =>
    have hserve := h.take (demand.reach r.ahead.length)
    rw [passedBy, List.flatten_cons, ← List.append_assoc, ← (take_eq_ahead _ r).2]
    rw [← serve_reader] at hserve ⊢
    exact ih hserve

/-- A reader with nothing to attempt has failed exactly if bytes are left. -/
theorem failed_iff_of_next?_eq_none (h : StandsAfter buf passed r) (hnext : r.next? = none) :
    r.failed = true ↔ r.position < buf.length := by
  have hrest : r.rest = [] ↔ buf.length ≤ r.position := by
    rw [h.within.rest_eq, List.drop_eq_nil_iff]
  constructor
  · intro hfailed
    exact Nat.not_le.mp (mt hrest.mpr (h.rest_ne_nil hfailed))
  · intro hposition
    cases hfailed : r.failed with
    | true => rfl
    | false =>
      have hne : r.rest ≠ [] := mt hrest.mp (Nat.not_le.mpr hposition)
      have hsome := next?_of_ne_nil hne r.position
      rw [← hfailed] at hsome
      cases hnext.symm.trans hsome

end StandsAfter

/-! ### Any demands -/

/-- Only the last item can be a fault, and it is a refusal of bytes that are there. -/
theorem fault_of_getElem?_items {buf : Bytes} {i : Nat} {fault : Fault}
    (h : (items buf)[i]? = some (.error fault)) :
    i + 1 = (items buf).length ∧
      ∃ rest reason, rest ≠ [] ∧ fault = .refused reason ∧ Refused rest reason := by
  obtain ⟨ds, rest, stop, hreads⟩ := Reads.exists_reads buf
  have hitems : items buf = itemsOf ds stop := hreads.drain_eq.1
  rw [hitems] at h ⊢
  obtain ⟨rfl, rfl⟩ := eq_length_of_getElem?_itemsOf h
  obtain ⟨hne, hdecode⟩ := hreads.decode_rest
  refine ⟨by rw [itemsOf, List.length_append, List.length_map]; rfl, ?_⟩
  rcases Datagram.accepted_or_refused rest with ⟨d, n, hread⟩ | ⟨reason, hrefused⟩
  · cases hread.symm.trans hdecode
  · cases hrefused.decode_eq.symm.trans hdecode
    exact ⟨rest, reason, hne, rfl, hrefused⟩

/-- A reader walks once along the items of its byte string, whatever it is asked.

The whole of the items is no longer than the byte string, and only its last one can be an error.
Demands are answered by the items that they pass, and these are in order the first of the whole.
They fix where the reader stands: behind as many bytes as the datagrams among them have, and failed
if they end in an error. A reader that has no next item never has one again, and one that was
drained has failed exactly if it stands before the end. -/
theorem serveAll_ofBytes (buf : Bytes) (demands : List Demand) :
    let whole := items buf
    let passed := (passedBy demands whole).flatten
    let r := (serveAll demands (ofBytes buf)).2
    (whole.length ≤ buf.length ∧
      ∀ (i : Nat) (fault : Fault), whole[i]? = some (.error fault) →
        i + 1 = whole.length ∧
          ∃ reason, fault = .refused reason ∧ reason ≠ .empty ∧
            (∀ expected found, reason ≠ .unexpectedType expected found) ∧
            ∀ len max, reason ≠ .payloadTooLarge len max) ∧
      ((serveAll demands (ofBytes buf)).1 =
          List.zipWith Demand.answer demands (passedBy demands whole) ∧ passed <+: whole) ∧
      (r.position = Datagram.encodedLengths (datagramsOf passed) ∧
        r.position + r.remaining = buf.length ∧ r.rest = buf.drop r.position ∧
        (r.failed = true ↔ ∃ fault, passed.getLast? = some (.error fault))) ∧
      (r.next? = none → ∀ more, (serveAll more r).2.next? = none) ∧
      (.drain ∈ demands → (r.failed = true ↔ r.position < buf.length)) := by
  intro whole passed r
  have hstands : StandsAfter buf passed r := (StandsAfter.start buf).serveAll demands
  have hremaining : r.position + r.remaining = buf.length := by
    rw [remaining, hstands.within.rest_eq, List.length_drop]
    exact Nat.add_sub_of_le hstands.within.position_le
  refine ⟨⟨length_ahead_le (ofBytes buf), fun i fault h ↦ ?_⟩,
    ⟨serveAll_answers demands _, ⟨r.ahead, hstands.items_eq⟩⟩,
    ⟨hstands.position_eq, hremaining, hstands.within.rest_eq, hstands.failed_iff⟩,
    fun hnext more ↦ ?_, fun hdrain ↦ ?_⟩
  · obtain ⟨hlast, rest, reason, hne, rfl, hrefused⟩ := fault_of_getElem?_items h
    exact ⟨hlast, reason, rfl, hrefused.of_ne_nil hne⟩
  · rw [serveAll_of_next?_eq_none hnext, hnext]
  · exact hstands.failed_iff_of_next?_eq_none (next?_serveAll_of_drain hdrain _)

/-- A ping and then a byte of no kind: the second item is an error, and the drained reader stands
failed before that byte and never has an item again. -/
theorem serveAll_ofBytes_ping :
    let buf := [Kind.ping.code, 7, 0x13, Kind.heartbeat.code]
    let r := (serveAll [.next, .drain] (ofBytes buf)).2
    ((items buf)[1]? = some (.error (.refused (.unsupportedType .unknown))) ∧
        1 + 1 = (items buf).length) ∧
      r = ⟨2, [0x13, Kind.heartbeat.code], true⟩ ∧
      (r.next? = none ∧ ∀ more, (serveAll more r).2.next? = none) ∧
      (r.failed = true ↔ r.position < buf.length) := by
  intro buf r
  obtain ⟨⟨-, hlast⟩, -, -, hfused, hdrained⟩ := serveAll_ofBytes buf [.next, .drain]
  have herror : (items buf)[1]? = some (.error (.refused (.unsupportedType .unknown))) := rfl
  exact ⟨⟨herror, (hlast 1 _ herror).1⟩, rfl, ⟨rfl, hfused rfl⟩, hdrained (by decide)⟩

end Reader

end TopicWire
