import Mathlib.Data.List.Nodup
import TopicWire.Proofs.StatsAccount

/-!
# What statistics keep apart

The topics of a capture share one table, and so do its kinds. Yet a table of either sort is looked
up for one key at a time: what is counted under a key changes the entry of that key alone
(`Stats.lookup_observeTopic`, `Stats.lookup_countKind`). So of all that statistics are given, the
track of a topic sees the sequence numbers of that topic only (`Stats.sequencesOn`), in their order
and as if there were nothing else (`Stats.recordAll_on`), and the count of a kind sees how often the
kind comes up (`Stats.lookup_perKind_recordAll`).

Two tables that answer alike for every key hold the same entries (`Stats.perm_of_lookup_eq`), so the
order in which the datagrams came in leaves a trace only where a track keeps one.
-/

set_option autoImplicit false
set_option relaxedAutoImplicit false

namespace TopicWire

open Sequence

/-! ### One topic followed -/

namespace TopicTrack

/-- Takes in numbers in order on a track that starts with the first of them if there is none yet.
Answers what each is answered. -/
def follow : Option TopicTrack → List UInt32 → List (Option Order) × Option TopicTrack
  | track?, [] => ([], track?)
  | track?, sequence :: sequences =>
    let (order?, track) := (track?.getD fresh).observe sequence
    let (orders, track?) := follow (some track) sequences
    (order? :: orders, track?)

theorem follow_cons (track? : Option TopicTrack) (sequence : UInt32) (sequences : List UInt32) :
    follow track? (sequence :: sequences) =
      (((track?.getD fresh).observe sequence).1 ::
          (follow (some ((track?.getD fresh).observe sequence).2) sequences).1,
        (follow (some ((track?.getD fresh).observe sequence).2) sequences).2) := rfl

theorem follow_some (track : TopicTrack) (sequences : List UInt32) :
    follow (some track) sequences =
      ((track.observeAll sequences).1, some (track.observeAll sequences).2) := by
  induction sequences generalizing track with
  | nil => rfl
  | cons sequence sequences ih =>
    rw [follow_cons, observeAll_cons, ih]
    rfl

/-- Without a track the numbers are taken in as on a fresh one, and no number starts none. -/
theorem follow_none (sequences : List UInt32) :
    follow none sequences =
      ((fresh.observeAll sequences).1,
        if sequences = [] then none else some (fresh.observeAll sequences).2) := by
  cases sequences with
  | nil => rfl
  | cons sequence sequences =>
    rw [follow_cons, observeAll_cons, if_neg (List.cons_ne_nil _ _), follow_some]
    rfl

end TopicTrack

namespace Stats

/-! ### Tables -/

section Tables

variable {κ α : Type} [BEq κ] [LawfulBEq κ] {entries others : List (κ × α)}

/-- In a table with one entry for each key, that entry is what the table answers. -/
theorem lookup_eq_some_iff_mem (h : (entries.map Prod.fst).Nodup) {key : κ} {value : α} :
    entries.lookup key = some value ↔ (key, value) ∈ entries := by
  induction entries with
  | nil => simp
  | cons entry later ih =>
    obtain ⟨first, known⟩ := entry
    rw [List.map_cons, List.nodup_cons] at h
    rw [List.lookup_cons, List.mem_cons, Prod.mk.injEq]
    by_cases hkey : key = first
    · subst hkey
      have hlater : (key, value) ∉ later := fun hmem ↦
        h.1 (List.mem_map.mpr ⟨(key, value), hmem, rfl⟩)
      simp [hlater, eq_comm]
    · simp [beq_false_of_ne hkey, hkey, ih h.2]

/-- Tables that answer alike hold the same entries. -/
theorem perm_of_lookup_eq (hentries : (entries.map Prod.fst).Nodup)
    (hothers : (others.map Prod.fst).Nodup) (h : ∀ key, entries.lookup key = others.lookup key) :
    entries.Perm others := by
  rw [List.perm_ext_iff_of_nodup hentries.of_map hothers.of_map]
  rintro ⟨key, value⟩
  rw [← lookup_eq_some_iff_mem hentries, ← lookup_eq_some_iff_mem hothers, h]

/-- A key before the first of an ascending table is not in it. -/
theorem lookup_cons_eq_none {entry : UInt64 × α} {later : List (UInt64 × α)} {key : UInt64}
    (h : (entry :: later).Pairwise (·.1 < ·.1)) (hlt : key < entry.1) :
    (entry :: later).lookup key = none := by
  rw [List.lookup_eq_none_iff, List.forall_mem_cons]
  refine ⟨bne_iff_ne.mpr (UInt64.ne_of_lt hlt), fun other hother ↦ ?_⟩
  exact bne_iff_ne.mpr
    (UInt64.ne_of_lt (UInt64.lt_trans hlt (List.rel_of_pairwise_cons h hother)))

/-- Ascending tables that answer alike are the same. -/
theorem eq_of_lookup_eq {entries others : List (UInt64 × α)}
    (hentries : entries.Pairwise (·.1 < ·.1)) (hothers : others.Pairwise (·.1 < ·.1))
    (h : ∀ key, entries.lookup key = others.lookup key) : entries = others := by
  have hperm := perm_of_lookup_eq (nodup_keys hentries) (nodup_keys hothers) h
  exact hperm.eq_of_pairwise (fun a b _ _ hab hba ↦ absurd hba (UInt64.lt_asymm hab)) hentries
    hothers

end Tables

/-! ### One key at a time -/

section OneKey

variable {topicId other : UInt64} {sequence : UInt32} {topics : List (UInt64 × TopicTrack)}

theorem fst_observeTopic (h : topics.Pairwise (·.1 < ·.1)) :
    (observeTopic topicId sequence topics).1 =
      (((topics.lookup topicId).getD .fresh).observe sequence).1 := by
  induction topics with
  | nil => rfl
  | cons topic later ih =>
    rcases Std.lt_trichotomy topicId topic.1 with hlt | heq | hgt
    · rw [observeTopic_cons_of_lt sequence later hlt, lookup_cons_eq_none h hlt]
      rfl
    · rw [observeTopic_cons_of_eq sequence later heq, lookup_cons_eq_ite, if_pos heq]
      rfl
    · have hne : topicId ≠ topic.1 := (UInt64.ne_of_lt hgt).symm
      rw [observeTopic_cons_of_gt sequence later hgt, lookup_cons_eq_ite, if_neg hne,
        ih h.of_cons]

/-- A number changes the track of its topic alone. -/
theorem lookup_observeTopic (h : topics.Pairwise (·.1 < ·.1)) :
    (observeTopic topicId sequence topics).2.lookup other =
      if other = topicId then
        some (((topics.lookup topicId).getD .fresh).observe sequence).2
      else topics.lookup other := by
  -- Before the place of the topic the table cannot hold it, since it ascends.
  induction topics with
  | nil => exact lookup_cons_eq_ite other (topicId, _) []
  | cons topic later ih =>
    rcases Std.lt_trichotomy topicId topic.1 with hlt | heq | hgt
    · rw [observeTopic_cons_of_lt sequence later hlt, lookup_cons_eq_none h hlt, lookup_cons_eq_ite]
      rfl
    · rw [observeTopic_cons_of_eq sequence later heq, lookup_cons_eq_ite, lookup_cons_eq_ite topicId,
        lookup_cons_eq_ite other, if_pos heq, heq]
      by_cases hother : other = topic.1
      · rw [if_pos hother, if_pos hother]
        rfl
      · rw [if_neg hother, if_neg hother, if_neg hother]
    · have hne : topicId ≠ topic.1 := (UInt64.ne_of_lt hgt).symm
      rw [observeTopic_cons_of_gt sequence later hgt, lookup_cons_eq_ite, ih h.of_cons,
        lookup_cons_eq_ite topicId, lookup_cons_eq_ite other, if_neg hne]
      by_cases hother : other = topic.1
      · rw [if_pos hother, if_neg (hother ▸ hne.symm), if_pos hother]
      · rw [if_neg hother, if_neg hother]

end OneKey

/-! ### The data of one topic -/

/-- The sequence number of a datagram, if it is data on the given topic. -/
def sequenceOn? (topicId : UInt64) (d : Datagram) : Option UInt32 :=
  (sample? d).bind fun sample ↦ if sample.topicId = topicId then some sample.sequence else none

/-- The sequence numbers of the data on a topic, in order. -/
def sequencesOn (topicId : UInt64) (ds : List Datagram) : List UInt32 :=
  ds.filterMap (sequenceOn? topicId)

/-- Of the answers to datagrams, those to the data on a topic. -/
def answersOn (topicId : UInt64) (ds : List Datagram) (answers : List (Option Order)) :
    List (Option Order) :=
  (ds.zip answers).filterMap fun entry ↦ (sequenceOn? topicId entry.1).map fun _ ↦ entry.2

theorem sequenceOn?_eq_some_iff {topicId : UInt64} {d : Datagram} {sequence : UInt32} :
    sequenceOn? topicId d = some sequence ↔
      ∃ sample, d = .data sample ∧ sample.topicId = topicId ∧ sample.sequence = sequence := by
  simp only [sequenceOn?, Option.bind_eq_some_iff, sample?_eq_some_iff,
    Option.ite_none_right_eq_some, Option.some_inj]

section OneDatagram

variable {stats : Stats} {d : Datagram} {topicId : UInt64} {sequence : UInt32}

theorem answersOn_cons_on (hd : sequenceOn? topicId d = some sequence) (ds : List Datagram)
    (answer : Option Order) (answers : List (Option Order)) :
    answersOn topicId (d :: ds) (answer :: answers) = answer :: answersOn topicId ds answers := by
  simp [answersOn, hd]

theorem answersOn_cons_off (hd : sequenceOn? topicId d = none) (ds : List Datagram)
    (answer : Option Order) (answers : List (Option Order)) :
    answersOn topicId (d :: ds) (answer :: answers) = answersOn topicId ds answers := by
  simp [answersOn, hd]

theorem ascending_record (h : stats.topics.Pairwise (·.1 < ·.1)) :
    (stats.record d).2.topics.Pairwise (·.1 < ·.1) := by
  cases hsample : sample? d with
  | none =>
    rw [record_of_sample?_eq_none hsample]
    exact h
  | some sample =>
    cases sample?_eq_some_iff.mp hsample
    exact ascending_observeTopic h

/-- Data on a topic is taken in by the track of the topic. -/
theorem record_on (h : stats.topics.Pairwise (·.1 < ·.1))
    (hd : sequenceOn? topicId d = some sequence) :
    (stats.record d).1 = (((stats.topics.lookup topicId).getD .fresh).observe sequence).1 ∧
      (stats.record d).2.topics.lookup topicId =
        some (((stats.topics.lookup topicId).getD .fresh).observe sequence).2 := by
  obtain ⟨sample, rfl, rfl, rfl⟩ := sequenceOn?_eq_some_iff.mp hd
  refine ⟨fst_observeTopic h, ?_⟩
  show (observeTopic sample.topicId sample.sequence stats.topics).2.lookup sample.topicId = _
  rw [lookup_observeTopic h, if_pos rfl]

/-- Anything else leaves the topic alone. -/
theorem record_off (h : stats.topics.Pairwise (·.1 < ·.1)) (hd : sequenceOn? topicId d = none) :
    (stats.record d).2.topics.lookup topicId = stats.topics.lookup topicId := by
  cases hsample : sample? d with
  | none =>
    rw [record_of_sample?_eq_none hsample]
    rfl
  | some sample =>
    cases sample?_eq_some_iff.mp hsample
    have hother : topicId ≠ sample.topicId := by
      rintro rfl
      simp [sequenceOn?, sample?] at hd
    show (observeTopic sample.topicId sample.sequence stats.topics).2.lookup topicId = _
    rw [lookup_observeTopic h, if_neg hother]

end OneDatagram

/-- Statistics do with a topic what a track of its own does with its numbers. -/
theorem recordAll_on {stats : Stats} (h : stats.topics.Pairwise (·.1 < ·.1)) (topicId : UInt64)
    (ds : List Datagram) :
    (answersOn topicId ds (stats.recordAll ds).1, (stats.recordAll ds).2.topics.lookup topicId) =
      TopicTrack.follow (stats.topics.lookup topicId) (sequencesOn topicId ds) := by
  -- Data on the topic is one step of both sides, and anything else is no step of either.
  induction ds generalizing stats with
  | nil => rfl
  | cons d ds ih =>
    have hrest := ih (ascending_record (d := d) h)
    rw [recordAll_cons]
    cases hd : sequenceOn? topicId d with
    | none =>
      rw [record_off h hd] at hrest
      rw [answersOn_cons_off hd, sequencesOn, List.filterMap_cons_none hd]
      exact hrest
    | some sequence =>
      obtain ⟨hanswer, htrack⟩ := record_on h hd
      rw [htrack] at hrest
      rw [answersOn_cons_on hd, sequencesOn, List.filterMap_cons_some hd, TopicTrack.follow_cons,
        hanswer, ← sequencesOn, ← hrest]

theorem ascending_recordAll {stats : Stats} (h : stats.topics.Pairwise (·.1 < ·.1))
    (ds : List Datagram) : (stats.recordAll ds).2.topics.Pairwise (·.1 < ·.1) := by
  induction ds generalizing stats with
  | nil => exact h
  | cons d ds ih => exact ih (ascending_record h)

@[simp] theorem length_recordAll (stats : Stats) (ds : List Datagram) :
    (stats.recordAll ds).1.length = ds.length := by
  induction ds generalizing stats with
  | nil => rfl
  | cons d ds ih => rw [recordAll_cons, List.length_cons, ih, List.length_cons]

/-- What is no data is answered nothing. -/
theorem eq_none_of_mem_zip {stats : Stats} {ds : List Datagram}
    {entry : Datagram × Option Order} (h : entry ∈ ds.zip (stats.recordAll ds).1)
    (hentry : sample? entry.1 = none) : entry.2 = none := by
  induction ds generalizing stats with
  | nil => cases h
  | cons d ds ih =>
    rw [recordAll_cons, List.zip_cons_cons, List.mem_cons] at h
    rcases h with rfl | h
    · show (stats.record d).1 = none
      rw [record_of_sample?_eq_none hentry]
    · exact ih h

/-! ### Counts without an order -/

section Counts

variable (stats : Stats) (ds : List Datagram)

theorem datagrams_recordAll :
    (stats.recordAll ds).2.datagrams = stats.datagrams + UInt64.ofNat ds.length := by
  induction ds generalizing stats with
  | nil => exact (UInt64.add_zero _).symm
  | cons d ds ih =>
    have hrecord : (stats.record d).2.datagrams = stats.datagrams + 1 := by
      cases d <;> rfl
    rw [recordAll_cons, ih, hrecord, List.length_cons, Nat.add_comm, UInt64.ofNat_add,
      UInt64.add_assoc]
    rfl

theorem bytesDecoded_recordAll :
    (stats.recordAll ds).2.bytesDecoded =
      stats.bytesDecoded + UInt64.ofNat (Datagram.encodedLengths ds) := by
  induction ds generalizing stats with
  | nil => exact (UInt64.add_zero _).symm
  | cons d ds ih =>
    have hrecord : (stats.record d).2.bytesDecoded =
        stats.bytesDecoded + UInt64.ofNat d.encodedLength := by
      cases d <;> rfl
    rw [recordAll_cons, ih, hrecord, UInt64.add_assoc, ← UInt64.ofNat_add]
    rfl

theorem perKind_record (d : Datagram) :
    (stats.record d).2.perKind = countKind d.kind stats.perKind := by
  cases d <;> rfl

theorem nodup_perKind_recordAll (h : (stats.perKind.map Prod.fst).Nodup) :
    ((stats.recordAll ds).2.perKind.map Prod.fst).Nodup := by
  induction ds generalizing stats with
  | nil => exact h
  | cons d ds ih =>
    refine ih (stats.record d).2 ?_
    rw [perKind_record]
    exact nodup_countKind h

/-- A kind is counted as often as it comes up, and has no entry until it does. -/
theorem lookup_perKind_recordAll (kind : Kind) :
    (stats.recordAll ds).2.perKind.lookup kind =
      if kind ∈ ds.map Datagram.kind then
        some ((stats.perKind.lookup kind).getD 0 +
          UInt64.ofNat ((ds.map Datagram.kind).count kind))
      else stats.perKind.lookup kind := by
  induction ds generalizing stats with
  | nil => rfl
  | cons d ds ih =>
    rw [recordAll_cons, ih, perKind_record, lookup_countKind, List.map_cons, List.count_cons]
    by_cases hkind : kind = d.kind
    · subst hkind
      have hcount : UInt64.ofNat ((ds.map Datagram.kind).count d.kind + 1) =
          1 + UInt64.ofNat ((ds.map Datagram.kind).count d.kind) := by
        rw [Nat.add_comm, UInt64.ofNat_add]
        rfl
      by_cases hlater : d.kind ∈ ds.map Datagram.kind
      · simp [hlater, hcount, UInt64.add_assoc]
      · simp [hlater, List.count_eq_zero_of_not_mem hlater]
    · simp [hkind, Ne.symm hkind]

/-- The order of the datagrams leaves no trace in the counts of their kinds. -/
theorem lookup_perKind_perm {ds others : List Datagram} (h : ds.Perm others) (kind : Kind) :
    (stats.recordAll ds).2.perKind.lookup kind =
      (stats.recordAll others).2.perKind.lookup kind := by
  have hkinds := h.map Datagram.kind
  rw [lookup_perKind_recordAll, lookup_perKind_recordAll, hkinds.count_eq]
  simp only [hkinds.mem_iff]

theorem encodedLengths_perm {ds others : List Datagram} (h : ds.Perm others) :
    Datagram.encodedLengths ds = Datagram.encodedLengths others := by
  have hsum (ds : List Datagram) :
      Datagram.encodedLengths ds = (ds.map Datagram.encodedLength).sum := by
    rw [List.sum_eq_foldr, List.foldr_map]
    rfl
  rw [hsum, hsum]
  exact (h.map _).sum_nat

end Counts

/-- Topics are tracked independently of each other and of all else. What statistics hold of a topic
is what a track holds that was given the sequence numbers of the topic alone, and nothing if there
were none; each of them is answered as that track answers it, and what is no data is answered
nothing. So datagrams whose sequence numbers agree topic by topic leave the same tracks, however the
topics and other kinds come in between, and datagrams in any order leave the same counts of
datagrams, bytes and kinds. -/
theorem recordAll_isolates (ds : List Datagram) :
    let answers := (fresh.recordAll ds).1
    let stats := (fresh.recordAll ds).2
    (∀ topicId,
        let alone := TopicTrack.fresh.observeAll (sequencesOn topicId ds)
        stats.topics.lookup topicId =
            (if sequencesOn topicId ds = [] then none else some alone.2) ∧
          answersOn topicId ds answers = alone.1) ∧
      (answers.length = ds.length ∧
        ∀ entry ∈ ds.zip answers, sample? entry.1 = none → entry.2 = none) ∧
      (∀ others, (∀ topicId, sequencesOn topicId ds = sequencesOn topicId others) →
        stats.topics = (fresh.recordAll others).2.topics) ∧
      ∀ others, ds.Perm others →
        let counted := (fresh.recordAll others).2
        stats.datagrams = counted.datagrams ∧ stats.bytesDecoded = counted.bytesDecoded ∧
          stats.perKind.Perm counted.perKind ∧
          ∀ kind, stats.perKind.lookup kind = counted.perKind.lookup kind := by
  intro answers stats
  have hascending (ds : List Datagram) : (fresh.recordAll ds).2.topics.Pairwise (·.1 < ·.1) :=
    ascending_recordAll List.Pairwise.nil ds
  have halone (ds : List Datagram) (topicId : UInt64) :
      (answersOn topicId ds (fresh.recordAll ds).1,
          (fresh.recordAll ds).2.topics.lookup topicId) =
        TopicTrack.follow none (sequencesOn topicId ds) :=
    recordAll_on List.Pairwise.nil topicId ds
  refine ⟨fun topicId ↦ ?_, ⟨length_recordAll fresh ds, fun entry ↦ eq_none_of_mem_zip⟩,
    fun others hothers ↦ ?_, fun others hperm ↦ ?_⟩
  · have h := halone ds topicId
    rw [TopicTrack.follow_none, Prod.mk.injEq] at h
    exact ⟨h.2, h.1⟩
  · refine eq_of_lookup_eq (hascending ds) (hascending others) fun topicId ↦ ?_
    have hds := congrArg Prod.snd (halone ds topicId)
    have hsame := congrArg Prod.snd (halone others topicId)
    rw [hothers topicId] at hds
    exact hds.trans hsame.symm
  · have hlookup := lookup_perKind_perm fresh hperm
    refine ⟨?_, ?_, perm_of_lookup_eq (nodup_perKind_recordAll fresh ds List.nodup_nil)
      (nodup_perKind_recordAll fresh others List.nodup_nil) hlookup, hlookup⟩
    · show (fresh.recordAll ds).2.datagrams = _
      rw [datagrams_recordAll, datagrams_recordAll, hperm.length_eq]
    · show (fresh.recordAll ds).2.bytesDecoded = _
      rw [bytesDecoded_recordAll, bytesDecoded_recordAll, encodedLengths_perm hperm]

end Stats

end TopicWire
