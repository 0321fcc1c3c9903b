import TopicWire.Proofs.ReaderCursor
import TopicWire.Proofs.ReportText
import TopicWire.Proofs.StatsAccount

/-!
# A report accounts for its capture

The inspector reads a capture with one reader and keeps books of its own: the statistics, the lines
of the datagrams and the events on the way. The attempts of the reader are those of the reading of
the capture (`Reads.attempts_take`), so each book can be drawn up along the datagrams that are read:
the statistics (`Report.stats_observeAll`), the lines with their offsets
(`Report.datagrams_observeAll`) and the events of numbers out of their place
(`Report.anomalies_observeAll`). What is printed of them follows from what the lines read like, for
nothing is summed up on the way (`Report.not_mem_inspect`). `Report.inspect_accounts` closes the
books: they agree with each other, with the reader, and with the lines.
-/

set_option autoImplicit false
set_option relaxedAutoImplicit false

namespace TopicWire

open Sequence

/-! ### The attempts on a capture -/

/-- The attempts that carry out a reading, the first of which is made at a position. -/
def attemptsOf : Nat → Bytes → List Datagram → Option Fault → List Attempt
  | position, buf, [], stop => (stop.map fun fault ↦ ⟨position, buf, .error fault⟩).toList
  | position, buf, d :: ds, stop =>
    ⟨position, buf, .ok (d, d.encodedLength)⟩ ::
      attemptsOf (position + d.encodedLength) (buf.drop d.encodedLength) ds stop

/-- As many attempts as there are bytes are those of the reading. -/
theorem Reads.attempts_take {buf rest : Bytes} {ds : List Datagram} {stop : Option Fault}
    (h : Reads buf ds rest stop) {count : Nat} (hcount : buf.length ≤ count) (position : Nat) :
    (Reader.take count ⟨position, buf, false⟩).1 = attemptsOf position buf ds stop := by
  induction h generalizing count position with
  | done =>
    rw [Reader.take_of_next?_eq_none rfl]
    rfl
  | @stopped buf fault hne h =>
    obtain ⟨count, rfl⟩ : ∃ fewer, count = fewer + 1 := by
      have hpos := List.length_pos_iff.mpr hne
      exact ⟨count - 1, by omega⟩
    rw [Reader.take_succ_of_next?_eq_some (Reader.next?_of_error hne h),
      Reader.take_of_next?_eq_none rfl]
    rfl
  | @next buf rest d n ds stop h tail ih =>
    have hpos := Datagram.consumed_pos h
    have hle := Datagram.consumed_le h
    obtain ⟨count, rfl⟩ : ∃ fewer, count = fewer + 1 := ⟨count - 1, by omega⟩
    have hfewer : (buf.drop n).length ≤ count := by
      rw [List.length_drop]
      omega
    rw [Reader.take_succ_of_next?_eq_some (Reader.next?_of_ok h), ih hfewer (position + n),
      attemptsOf, Datagram.consumed_eq h]

/-- The datagrams of a reading and the bytes left over make up the byte string. -/
theorem Reads.encodedLengths_add_length {buf rest : Bytes} {ds : List Datagram}
    {stop : Option Fault} (h : Reads buf ds rest stop) :
    Datagram.encodedLengths ds + rest.length = buf.length := by
  induction h with
  | done => rfl
  | stopped hne h => exact Nat.zero_add _
  | @next buf rest d n ds stop h tail ih =>
    have hle := Datagram.consumed_le h
    rw [List.length_drop] at ih
    rw [Datagram.consumed_eq h] at ih hle
    simp only [Datagram.encodedLengths, List.foldr_cons] at ih ⊢
    omega

/-- A reading has no more datagrams than bytes. -/
theorem Reads.length_le {buf rest : Bytes} {ds : List Datagram} {stop : Option Fault}
    (h : Reads buf ds rest stop) : ds.length ≤ buf.length := by
  have hitems := Reader.length_ahead_le (Reader.ofBytes buf)
  rw [Reader.ahead, h.drain_eq.1, itemsOf, List.length_append, List.length_map] at hitems
  exact Nat.le_of_add_right_le hitems

/-! ### What a report says of them -/

/-- A function on what each entry is turned into, whatever it owes to its place. -/
theorem map_mapIdx {α β γ : Type} (g : β → γ) (f : Nat → α → β) (xs : List α) :
    (xs.mapIdx f).map g = xs.mapIdx fun i x ↦ g (f i x) := by
  rw [List.mapIdx_eq_zipIdx_map, List.mapIdx_eq_zipIdx_map, List.map_map]
  rfl

namespace Report

theorem observeAll_cons (quiet : Bool) (stats : Stats) (attempt : Attempt)
    (attempts : List Attempt) :
    observeAll quiet stats (attempt :: attempts) =
      ((observe quiet stats attempt).1 ++
          (observeAll quiet (observe quiet stats attempt).2 attempts).1,
        (observeAll quiet (observe quiet stats attempt).2 attempts).2) := rfl

/-- Nothing is summed up on the way. -/
theorem not_mem_observeAll (quiet : Bool) (stats : Stats) (attempts : List Attempt)
    (text : String) : .summary text ∉ (observeAll quiet stats attempts).1 := by
  have hanomaly : ∀ offset answer, Entry.summary text ∉ anomaly offset answer := by
    intro offset answer hmem
    rcases answer with _ | order
    · exact List.not_mem_nil hmem
    · cases order with
      | gap missing => exact nomatch List.mem_singleton.mp hmem
      | reordered => exact nomatch List.mem_singleton.mp hmem
      | inOrder | duplicate => exact List.not_mem_nil hmem
  induction attempts generalizing stats with
  | nil => simp [observeAll]
  | cons attempt attempts ih =>
    have hobserve : .summary text ∉ (observe quiet stats attempt).1 := by
      unfold observe
      split
      · cases quiet <;> simp [hanomaly]
      · simp
    rw [observeAll_cons, List.mem_append, not_or]
    exact ⟨hobserve, ih _⟩

theorem not_mem_inspect (quiet : Bool) (capture : Bytes) (text : String) :
    .summary text ∉ (inspect quiet capture).1 :=
  not_mem_observeAll quiet .fresh _ text

/-! What one attempt adds to a report: a line at most, and an event for a number out of its
place. -/

section Observe

variable (quiet : Bool) (stats : Stats) (position n : Nat) (buf : Bytes)

theorem datagrams_observe_ok (d : Datagram) :
    (observe quiet stats ⟨position, buf, .ok (d, n)⟩).1.filterMap Entry.datagram? =
      if quiet then [] else [(position, d)] := by
  have hanomaly : (anomaly position (stats.record d).1).filterMap Entry.datagram? = [] := by
    rcases (stats.record d).1 with _ | order
    · rfl
    · cases order <;> rfl
  cases quiet with
  | true => exact hanomaly
  | false => exact congrArg ((position, d) :: ·) hanomaly

theorem anomalies_observe_ok (d : Datagram) :
    (observe quiet stats ⟨position, buf, .ok (d, n)⟩).1.countP Entry.isAnomaly =
      if (stats.record d).1.any Order.isAnomaly then 1 else 0 := by
  have hanomaly : (anomaly position (stats.record d).1).countP Entry.isAnomaly =
      if (stats.record d).1.any Order.isAnomaly then 1 else 0 := by
    rcases (stats.record d).1 with _ | order
    · rfl
    · cases order <;> rfl
  cases quiet <;> exact hanomaly

theorem datagrams_observe_error (fault : Fault) :
    (observe quiet stats ⟨position, buf, .error fault⟩).1.filterMap Entry.datagram? = [] := by
  rw [observe]
  cases Kind.peek? buf <;> rfl

theorem anomalies_observe_error (fault : Fault) :
    (observe quiet stats ⟨position, buf, .error fault⟩).1.countP Entry.isAnomaly = 0 := by
  rw [observe]
  cases Kind.peek? buf <;> rfl

end Observe

section Attempts

variable (quiet : Bool) (stats : Stats) (position : Nat) (buf : Bytes) (ds : List Datagram)
  (stop : Option Fault)

/-- The statistics count the datagrams, and keep the fault with the place where it was found. -/
theorem stats_observeAll :
    (observeAll quiet stats (attemptsOf position buf ds stop)).2 =
      match stop with
      | none => (stats.recordAll ds).2
      | some fault =>
        { (stats.recordAll ds).2 with
          stopped := some (position + Datagram.encodedLengths ds, fault) } := by
  induction ds generalizing stats position buf with
  | nil => cases stop <;> rfl
  | cons d ds ih =>
    have hobserve : (observe quiet stats ⟨position, buf, .ok (d, d.encodedLength)⟩).2 =
        (stats.record d).2 := rfl
    rw [attemptsOf, observeAll_cons, hobserve, ih, Stats.recordAll_cons]
    cases stop with
    | none => rfl
    | some fault => simp [Datagram.encodedLengths, Nat.add_assoc]

/-- Unless the report is quiet it has a line for each datagram, with the offset of its first
byte. -/
theorem datagrams_observeAll :
    (observeAll quiet stats (attemptsOf position buf ds stop)).1.filterMap Entry.datagram? =
      if quiet then []
      else ds.mapIdx fun i d ↦ (position + Datagram.encodedLengths (ds.take i), d) := by
  induction ds generalizing stats position buf with
  | nil => cases stop <;> simp [attemptsOf, observeAll, datagrams_observe_error]
  | cons d ds ih =>
    rw [attemptsOf, observeAll_cons, List.filterMap_append, datagrams_observe_ok, ih]
    cases quiet with
    | true => rfl
    | false => simp [Datagram.encodedLengths, Nat.add_assoc]

/-- The report has an event for each sequence number that is out of its place. -/
theorem anomalies_observeAll :
    (observeAll quiet stats (attemptsOf position buf ds stop)).1.countP Entry.isAnomaly =
      (stats.recordAll ds).1.countP (·.any Order.isAnomaly) := by
  induction ds generalizing stats position buf with
  | nil => cases stop <;> simp [attemptsOf, observeAll, anomalies_observe_error, Stats.recordAll]
  | cons d ds ih =>
    rw [attemptsOf, observeAll_cons, List.countP_append, anomalies_observe_ok, ih,
      Stats.recordAll_cons, List.countP_cons, Nat.add_comm]
    rfl

end Attempts

/-! ### The account -/

section Reading

variable {capture rest : Bytes} {ds : List Datagram} {stop : Option Fault}

theorem inspect_of_reads (h : Reads capture ds rest stop) (quiet : Bool) :
    inspect quiet capture = observeAll quiet .fresh (attemptsOf 0 capture ds stop) :=
  congrArg (observeAll quiet .fresh) (h.attempts_take (Nat.le_refl _) 0)

/-- The statistics of a capture count the datagrams of its reading. -/
theorem accounts_inspect (h : Reads capture ds rest stop) (hsize : capture.length < 2 ^ 63)
    (quiet : Bool) :
    (inspect quiet capture).2.Accounts ds ((inspect quiet capture).1.countP Entry.isAnomaly) := by
  have hcount : ([] : List Datagram).length + ds.length < 2 ^ 64 := by
    have hlength := h.length_le
    rw [List.length_nil]
    omega
  have hrecorded := Stats.Accounts.fresh.recordAll hcount
  rw [List.nil_append, Nat.zero_add] at hrecorded
  rw [inspect_of_reads h, anomalies_observeAll, stats_observeAll]
  cases stop with
  | none => exact hrecorded
  | some fault => exact ⟨hrecorded.1, hrecorded.2, hrecorded.3, hrecorded.4⟩

/-- The statistics of a capture keep the fault of its reading, with the place where it lies. -/
theorem stopped_inspect (h : Reads capture ds rest stop) (quiet : Bool) :
    (inspect quiet capture).2.stopped =
      stop.map fun fault ↦ (Datagram.encodedLengths ds, fault) := by
  rw [inspect_of_reads h, stats_observeAll]
  cases stop with
  | none => exact Stats.stopped_recordAll _ _
  | some fault => simp

/-- The fault of a reading lies where its datagrams end, and that is before the end of the
capture. -/
theorem fault_of_reads {fault : Fault} (h : Reads capture ds rest (some fault)) :
    Datagram.encodedLengths ds < capture.length ∧
      Datagram.decode (capture.drop (Datagram.encodedLengths ds)) = .error fault := by
  obtain ⟨hne, hdecode⟩ := h.decode_rest
  have hlength := h.encodedLengths_add_length
  have hpos := List.length_pos_iff.mpr hne
  have hrest := List.suffix_iff_eq_drop.mp h.rest_suffix
  have hplace : capture.length - rest.length = Datagram.encodedLengths ds := by omega
  rw [hplace] at hrest
  exact ⟨by omega, hrest ▸ hdecode⟩

/-- A reading without a fault is one whose datagrams end at the end of the capture. -/
theorem stop_eq_none_iff (h : Reads capture ds rest stop) :
    stop = none ↔ Datagram.encodedLengths ds = capture.length := by
  cases stop with
  | none =>
    have htotal := h.encodedLengths_add_length
    rw [h.rest_eq_nil, List.length_nil, Nat.add_zero] at htotal
    exact iff_of_true rfl htotal
  | some fault =>
    have hplace := (fault_of_reads h).1
    exact iff_of_false (fun hnone ↦ nomatch hnone) (Nat.ne_of_lt hplace)

/-- The reader stops where the datagrams of the reading end. -/
theorem position_of_reads (h : Reads capture ds rest stop) :
    (Reader.ofBytes capture).drain.2.position = Datagram.encodedLengths ds := by
  have htotal := h.encodedLengths_add_length
  rw [h.drain_eq.2]
  show capture.length - rest.length = _
  omega

end Reading

/-- The books of the inspector agree with the reader and with each other, on every capture.

It counts the datagrams that the reader yields, and each kind as often as it occurs. All the data is
received on the tracks of the topics that occur. The bytes decoded are those of the datagrams, and
they end where the reader stops: at the end of the capture, or before it, at the place of the fault
that is kept. Unless it is to be quiet, the report has a line for each datagram with the number of
bytes before it. It has an event for each number that a track counted ahead or late. Whatever filter
the log has, what is printed beside the log is those lines, with the offset, the kind and the
description; and if it shows the events of debugging, so many of its lines are those events. -/
theorem inspect_accounts (quiet : Bool) (capture : Bytes) (hsize : capture.length < 2 ^ 63) :
    let entries := (inspect quiet capture).1
    let stats := (inspect quiet capture).2
    let read := datagramsOf (Reader.items capture)
    (stats.datagrams.toNat = read.length ∧
        (stats.perKind.map fun entry ↦ entry.2.toNat).sum = read.length ∧
        (stats.perKind.map Prod.fst).Nodup ∧
        ∀ kind, (kind ∈ stats.perKind.map Prod.fst ↔ kind ∈ read.map Datagram.kind) ∧
          ((stats.perKind.lookup kind).getD 0).toNat = (read.map Datagram.kind).count kind) ∧
      ((stats.topics.map Prod.fst).Nodup ∧
        (stats.topics.map fun topic ↦ topic.2.received.toNat).sum =
          ((stats.perKind.lookup .data).getD 0).toNat ∧
        ∀ topicId, topicId ∈ stats.topics.map Prod.fst ↔
          ∃ sample, .data sample ∈ read ∧ sample.topicId = topicId) ∧
      (stats.bytesDecoded.toNat = Datagram.encodedLengths read ∧
        stats.bytesDecoded.toNat = (Reader.ofBytes capture).drain.2.position) ∧
      ((stats.stopped = none ↔ stats.bytesDecoded.toNat = capture.length) ∧
        ∀ offset fault, stats.stopped = some (offset, fault) →
          offset = stats.bytesDecoded.toNat ∧ offset < capture.length ∧
            Datagram.decode (capture.drop offset) = .error fault) ∧
      (entries.filterMap Entry.datagram? =
        if quiet then []
        else read.mapIdx fun i d ↦ (Datagram.encodedLengths (read.take i), d)) ∧
      entries.countP Entry.isAnomaly =
        (stats.topics.map fun topic ↦ topic.2.gaps.toNat + topic.2.reordered.toNat).sum ∧
      ∀ filter : LogFilter,
        ((lines filter entries).filter (fun line ↦ !isLogLine line) =
          if quiet then []
          else read.mapIdx fun i d ↦
            String.leftpad 8 ' ' (toString (Datagram.encodedLengths (read.take i))) ++ "  " ++
              String.rightpad 20 ' ' d.kind.label ++ " " ++ d.describe) ∧
        ((∀ site : Callsite, site.level = .debug → filter.admits site = true) →
          (lines filter entries).countP (Text.begins "DEBUG rekt_inspect: sequence anomaly ") =
            (stats.topics.map fun topic ↦ topic.2.gaps.toNat + topic.2.reordered.toNat).sum) := by
  intro entries stats read
  obtain ⟨ds, rest, stop, hreads⟩ := Reads.exists_reads capture
  have hread : ds = read := by
    show ds = datagramsOf ((Reader.ofBytes capture).drain.1.map Attempt.item)
    rw [hreads.drain_eq.1, datagramsOf_itemsOf]
  subst hread
  have haccounts : stats.Accounts read (entries.countP Entry.isAnomaly) :=
    accounts_inspect hreads hsize quiet
  have hstopped : stats.stopped = stop.map fun fault ↦ (Datagram.encodedLengths read, fault) :=
    stopped_inspect hreads quiet
  have hlength : read.length < 2 ^ 64 := by
    have hle := hreads.length_le
    omega
  have hbytes : stats.bytesDecoded.toNat = Datagram.encodedLengths read := by
    have htotal := hreads.encodedLengths_add_length
    exact toNat_of_eq_ofNat haccounts.bytesDecoded_eq (by omega)
  have hdatagrams : entries.filterMap Entry.datagram? =
      if quiet then []
      else read.mapIdx fun i d ↦ (Datagram.encodedLengths (read.take i), d) := by
    show (inspect quiet capture).1.filterMap Entry.datagram? = _
    rw [inspect_of_reads hreads, datagrams_observeAll]
    simp only [Nat.zero_add]
  refine ⟨⟨toNat_of_eq_ofNat haccounts.datagrams_eq hlength, ?_, haccounts.perKind.nodup,
      fun kind ↦ ⟨haccounts.perKind.mem_iff kind, haccounts.toNat_lookup hlength kind⟩⟩,
    ⟨haccounts.nodup_topics, haccounts.received_eq_lookup hlength, haccounts.mem_topics_iff⟩,
    ⟨hbytes, ?_⟩, ⟨?_, ?_⟩, hdatagrams, haccounts.topics.anomalies_eq.symm,
    fun filter ↦ ⟨?_, fun hdebug ↦ ?_⟩⟩
  · rw [haccounts.perKind.total_eq, List.length_map]
  · rw [hbytes, position_of_reads hreads]
  · rw [hbytes, hstopped, Option.map_eq_none_iff, stop_eq_none_iff hreads]
  · intro offset fault hfault
    rw [hstopped, Option.map_eq_some_iff] at hfault
    obtain ⟨_, rfl, hfault⟩ := hfault
    cases hfault
    exact ⟨hbytes.symm, fault_of_reads hreads⟩
  · rw [filter_not_isLogLine_lines filter (not_mem_inspect quiet capture), hdatagrams]
    cases quiet with
    | true => rfl
    | false => simp only [Bool.false_eq_true, if_false, map_mapIdx, Entry.line_datagram]
  · rw [countP_begins_anomaly_lines hdebug (not_mem_inspect quiet capture)]
    exact haccounts.topics.anomalies_eq.symm

/-- Two data on a topic, the second three ahead, and then a byte of no kind, with a log of all
events from debugging up. -/
theorem inspect_accounts_gap :
    let capture : Bytes :=
      [0x42, 0, 0, 1, 0, 0, 0, 42, 0, 0, 0, 0, 0, 0, 0,
        0x42, 0, 0, 5, 0, 0, 0, 42, 0, 0, 0, 0, 0, 0, 0, 0x13]
    let entries := (inspect false capture).1
    let stats := (inspect false capture).2
    (capture.length < 2 ^ 63 ∧ stats.stopped = some (30, .refused (.unsupportedType .unknown))) ∧
      (30 = stats.bytesDecoded.toNat ∧ 30 < capture.length ∧
        Datagram.decode (capture.drop 30) = .error (.refused (.unsupportedType .unknown))) ∧
      entries.countP Entry.isAnomaly =
        (stats.topics.map fun topic ↦ topic.2.gaps.toNat + topic.2.reordered.toNat).sum ∧
      (∀ site : Callsite, site.level = .debug →
        (LogFilter.upTo (some .debug)).admits site = true) ∧
      (lines (.upTo (some .debug)) entries).countP
          (Text.begins "DEBUG rekt_inspect: sequence anomaly ") =
        (stats.topics.map fun topic ↦ topic.2.gaps.toNat + topic.2.reordered.toNat).sum := by
  intro capture entries stats
  have hsize : capture.length < 2 ^ 63 := by decide
  have hstopped : stats.stopped = some (30, .refused (.unsupportedType .unknown)) := by decide
  have hdebug : ∀ site : Callsite, site.level = .debug →
      (LogFilter.upTo (some .debug)).admits site = true := by
    intro site hsite
    simp only [LogFilter.upTo, hsite]
    decide
  obtain ⟨-, -, -, ⟨-, hfault⟩, -, hanomalies, hlines⟩ := inspect_accounts false capture hsize
  exact ⟨⟨hsize, hstopped⟩, hfault _ _ hstopped, hanomalies, hdebug, (hlines _).2 hdebug⟩

end Report

end TopicWire
