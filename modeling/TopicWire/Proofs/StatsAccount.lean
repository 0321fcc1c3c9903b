import Mathlib.Algebra.GroupWithZero.Nat
import Mathlib.Algebra.Order.BigOperators.Group.List
import Mathlib.Algebra.Order.Group.Nat
import TopicWire.Capture.Stats
import TopicWire.Proofs.StreamRoundTrip
import TopicWire.Proofs.TopicConservation

/-!
# What statistics account for

Statistics count the same datagrams in ways that know nothing of each other: all of them, each kind,
and the sequence numbers of each topic. Each way has an account of its own, which says what has been
counted and is kept by one more: `Stats.CountsOf` for the kinds (`Stats.CountsOf.countKind`) and
`Stats.Tracks` for the topics (`Stats.Tracks.observeTopic`). A number changes the sum over all
topics by as much as it changes the track of its own (`Stats.sum_observeTopic`). Put together they
are the account of the statistics (`Stats.Accounts`), which a datagram keeps
(`Stats.Accounts.record`), and so do datagrams in a row (`Stats.Accounts.recordAll`).

Counts wrap around, so an account is exact of fewer datagrams than a 64-bit word can count.
-/

set_option autoImplicit false
set_option relaxedAutoImplicit false

namespace TopicWire

open Sequence

/-! ### One topic -/

/-- Whether a number is out of its place: ahead of the next one, or behind the last one. -/
def Sequence.Order.isAnomaly : Order → Bool
  | gap _ | reordered => true
  | inOrder | duplicate => false

namespace TopicTrack

/-- How many numbers were out of their place. -/
def anomalies (track : TopicTrack) : Nat := track.gaps.toNat + track.reordered.toNat

variable {track : TopicTrack}

theorem toNat_received_observe (h : track.received.toNat + 1 < 2 ^ 64) (sequence : UInt32) :
    (track.observe sequence).2.received.toNat = track.received.toNat + 1 := by
  have hreceived : (track.observe sequence).2.received = track.received + 1 := by
    cases hlast : track.lastSeen with
    | none => simp [observe, hlast]
    | some last => simp [observe_of_lastSeen hlast]
  rw [hreceived, UInt64.toNat_add]
  exact Nat.mod_eq_of_lt h

/-- A number that is answered as out of its place is one more. -/
theorem anomalies_observe (h : track.anomalies + 1 < 2 ^ 64) (sequence : UInt32) :
    (track.observe sequence).2.anomalies =
      track.anomalies + ((track.observe sequence).1.any Order.isAnomaly).toNat := by
  unfold anomalies at h ⊢
  cases hlast : track.lastSeen with
  | none => simp [observe, hlast]
  | some last =>
    rw [observe_of_lastSeen hlast]
    cases classify last sequence <;>
      simp [Order.isAnomaly, UInt64.toNat_add, tally] <;> omega

end TopicTrack

namespace Stats

/-- What is measured of one entry is no more than what is measured of all. -/
theorem le_sum_map {α : Type} (measure : α → Nat) {entry : α} {entries : List α}
    (h : entry ∈ entries) : measure entry ≤ (entries.map measure).sum :=
  List.le_sum_of_mem (List.mem_map_of_mem h)

/-- No key of an ascending table comes twice. -/
theorem nodup_keys {α : Type} {entries : List (UInt64 × α)} (h : entries.Pairwise (·.1 < ·.1)) :
    (entries.map Prod.fst).Nodup :=
  List.pairwise_map.mpr (h.imp UInt64.ne_of_lt)

/-- A table answers for its first key what is held there. -/
theorem lookup_cons_eq_ite {κ α : Type} [BEq κ] [LawfulBEq κ] [DecidableEq κ] (key : κ)
    (entry : κ × α) (later : List (κ × α)) :
    (entry :: later).lookup key = if key = entry.1 then some entry.2 else later.lookup key := by
  obtain ⟨first, value⟩ := entry
  rw [List.lookup_cons]
  by_cases h : key = first
  · rw [if_pos h, beq_iff_eq.mpr h]
  · rw [if_neg h, beq_false_of_ne h]

/-! ### The count of each kind -/

/-- The counts of a list of kinds: one entry for each kind that occurs. -/
structure CountsOf (counts : List (Kind × UInt64)) (kinds : List Kind) : Prop where
  nodup : (counts.map Prod.fst).Nodup
  mem_iff : ∀ kind, kind ∈ counts.map Prod.fst ↔ kind ∈ kinds
  lookup_eq : ∀ kind, (counts.lookup kind).getD 0 = UInt64.ofNat (kinds.count kind)
  total_eq : (counts.map fun entry ↦ entry.2.toNat).sum = kinds.length

section CountKind

variable {kind other : Kind} {counts : List (Kind × UInt64)}

theorem mem_countKind :
    kind ∈ (countKind other counts).map Prod.fst ↔ kind ∈ counts.map Prod.fst ∨ kind = other := by
  induction counts with
  | nil => simp [countKind]
  | cons entry later ih =>
    by_cases h : entry.1 = other
    · rw [countKind_cons_of_eq h, List.map_cons, List.map_cons, List.mem_cons, ← h]
      exact (or_iff_left_of_imp .inl).symm
    · rw [countKind_cons_of_ne h, List.map_cons, List.map_cons, List.mem_cons, List.mem_cons, ih,
        or_assoc]

theorem nodup_countKind (h : (counts.map Prod.fst).Nodup) :
    ((countKind other counts).map Prod.fst).Nodup := by
  induction counts with
  | nil => simp [countKind]
  | cons entry later ih =>
    rw [List.map_cons, List.nodup_cons] at h
    by_cases heq : entry.1 = other
    · rw [countKind_cons_of_eq heq]
      exact List.nodup_cons.mpr h
    · rw [countKind_cons_of_ne heq, List.map_cons, List.nodup_cons, mem_countKind]
      exact ⟨fun hmem ↦ hmem.elim h.1 heq, ih h.2⟩

/-- A datagram changes the count of its kind alone. -/
theorem lookup_countKind :
    (countKind other counts).lookup kind =
      if kind = other then some ((counts.lookup other).getD 0 + 1) else counts.lookup kind := by
  induction counts with
  | nil => exact lookup_cons_eq_ite kind (other, 1) []
  | cons entry later ih =>
    by_cases heq : entry.1 = other
    · rw [countKind_cons_of_eq heq, lookup_cons_eq_ite, lookup_cons_eq_ite kind,
        lookup_cons_eq_ite other, if_pos heq.symm, heq]
      by_cases h : kind = other
      · rw [if_pos h, if_pos h]
        rfl
      · rw [if_neg h, if_neg h, if_neg h]
    · rw [countKind_cons_of_ne heq, lookup_cons_eq_ite, ih, lookup_cons_eq_ite kind,
        lookup_cons_eq_ite other, if_neg (Ne.symm heq)]
      by_cases h : kind = entry.1
      · rw [if_pos h, if_neg (h ▸ heq), if_pos h]
      · rw [if_neg h, if_neg h]

theorem total_countKind (h : ∀ entry ∈ counts, entry.2.toNat + 1 < 2 ^ 64) :
    ((countKind other counts).map fun entry ↦ entry.2.toNat).sum =
      (counts.map fun entry ↦ entry.2.toNat).sum + 1 := by
  induction counts with
  | nil => rfl
  | cons entry later ih =>
    rw [List.forall_mem_cons] at h
    by_cases heq : entry.1 = other
    · have hcount : (entry.2 + 1).toNat = entry.2.toNat + 1 := by
        rw [UInt64.toNat_add]
        exact Nat.mod_eq_of_lt h.1
      rw [countKind_cons_of_eq heq, List.map_cons, List.map_cons, List.sum_cons, List.sum_cons,
        hcount]
      omega
    · rw [countKind_cons_of_ne heq, List.map_cons, List.map_cons, List.sum_cons, List.sum_cons,
        ih h.2, Nat.add_assoc]

end CountKind

/-- One more of a kind is counted with that kind. -/
theorem CountsOf.countKind {counts : List (Kind × UInt64)} {kinds : List Kind}
    (h : CountsOf counts kinds) (hlength : kinds.length + 1 < 2 ^ 64) (kind : Kind) :
    CountsOf (countKind kind counts) (kinds ++ [kind]) := by
  refine ⟨nodup_countKind h.nodup, fun other ↦ ?_, fun other ↦ ?_, ?_⟩
  · rw [mem_countKind, h.mem_iff, List.mem_append, List.mem_singleton]
  · rw [lookup_countKind, List.count_append, List.count_singleton]
    by_cases hother : other = kind
    · rw [if_pos hother, Option.getD_some, h.lookup_eq, hother, UInt64.ofNat_add]
      simp
    · rw [if_neg hother, h.lookup_eq]
      simp [Ne.symm hother]
  · rw [total_countKind, h.total_eq, List.length_append]
    · rfl
    · intro entry hentry
      have hle := le_sum_map (fun entry ↦ entry.2.toNat) hentry
      rw [h.total_eq] at hle
      omega

/-! ### The track of each topic -/

/-- The tracks of the topics of data: one for each topic that occurs, ascending by id. Together they
have received all of it, and so many of its numbers were out of their place. -/
structure Tracks (topics : List (UInt64 × TopicTrack)) (samples : List Data) (anomalies : Nat) :
    Prop where
  ascending : topics.Pairwise (·.1 < ·.1)
  mem_iff : ∀ topicId, topicId ∈ topics.map Prod.fst ↔ ∃ sample ∈ samples, sample.topicId = topicId
  received_eq : (topics.map fun topic ↦ topic.2.received.toNat).sum = samples.length
  anomalies_eq : (topics.map fun topic ↦ topic.2.anomalies).sum = anomalies
  anomalies_le : anomalies ≤ samples.length

section ObserveTopic

variable {topicId other : UInt64} {sequence : UInt32} {topics : List (UInt64 × TopicTrack)}

theorem mem_observeTopic :
    other ∈ (observeTopic topicId sequence topics).2.map Prod.fst ↔
      other ∈ topics.map Prod.fst ∨ other = topicId := by
  induction topics with
  | nil => simp [observeTopic]
  | cons topic later ih =>
    rcases Std.lt_trichotomy topicId topic.1 with hlt | heq | hgt
    · rw [observeTopic_cons_of_lt sequence later hlt, List.map_cons, List.mem_cons, or_comm]
    · rw [observeTopic_cons_of_eq sequence later heq, List.map_cons, List.map_cons, List.mem_cons,
        heq]
      exact (or_iff_left_of_imp .inl).symm
    · rw [observeTopic_cons_of_gt sequence later hgt, List.map_cons, List.map_cons, List.mem_cons,
        List.mem_cons, ih, or_assoc]

theorem ascending_observeTopic (h : topics.Pairwise (·.1 < ·.1)) :
    (observeTopic topicId sequence topics).2.Pairwise (·.1 < ·.1) := by
  induction topics with
  | nil => exact List.pairwise_singleton _ _
  | cons topic later ih =>
    obtain ⟨hfirst, hlater⟩ := List.pairwise_cons.mp h
    rcases Std.lt_trichotomy topicId topic.1 with hlt | heq | hgt
    · rw [observeTopic_cons_of_lt sequence later hlt, List.pairwise_cons, List.forall_mem_cons]
      exact ⟨⟨hlt, fun entry hentry ↦ UInt64.lt_trans hlt (hfirst entry hentry)⟩, h⟩
    · rw [observeTopic_cons_of_eq sequence later heq]
      exact List.pairwise_cons.mpr ⟨hfirst, hlater⟩
    · rw [observeTopic_cons_of_gt sequence later hgt, List.pairwise_cons]
      refine ⟨fun entry hentry ↦ ?_, ih hlater⟩
      have hmem := mem_observeTopic.mp (List.mem_map_of_mem (f := Prod.fst) hentry)
      rcases hmem with hmem | hmem
      · obtain ⟨known, hknown, hsame⟩ := List.mem_map.mp hmem
        exact hsame ▸ hfirst known hknown
      · exact hmem ▸ hgt

/-- What is measured of the tracks changes by as much as the number changes it on the track of its
topic. -/
theorem sum_observeTopic (measure : TopicTrack → Nat) (weight : Option Order → Nat)
    (hfresh : measure (TopicTrack.fresh.observe sequence).2 =
      weight (TopicTrack.fresh.observe sequence).1)
    (hstep : ∀ topic ∈ topics, measure (topic.2.observe sequence).2 =
      measure topic.2 + weight (topic.2.observe sequence).1) :
    ((observeTopic topicId sequence topics).2.map fun topic ↦ measure topic.2).sum =
      (topics.map fun topic ↦ measure topic.2).sum +
        weight (observeTopic topicId sequence topics).1 := by
  induction topics with
  | nil => simp [observeTopic, hfresh]
  | cons topic later ih =>
    rw [List.forall_mem_cons] at hstep
    rcases Std.lt_trichotomy topicId topic.1 with hlt | heq | hgt
    · rw [observeTopic_cons_of_lt sequence later hlt, List.map_cons, List.sum_cons, hfresh,
        Nat.add_comm]
    · rw [observeTopic_cons_of_eq sequence later heq, List.map_cons, List.map_cons, List.sum_cons,
        List.sum_cons, hstep.1, Nat.add_right_comm]
    · rw [observeTopic_cons_of_gt sequence later hgt, List.map_cons, List.map_cons, List.sum_cons,
        List.sum_cons, ih hstep.2, Nat.add_assoc]

end ObserveTopic

/-- One more sample is received on the track of its topic. -/
theorem Tracks.observeTopic {topics : List (UInt64 × TopicTrack)} {samples : List Data}
    {anomalies : Nat} (h : Tracks topics samples anomalies) (hlength : samples.length + 1 < 2 ^ 64)
    (sample : Data) :
    Tracks (observeTopic sample.topicId sample.sequence topics).2 (samples ++ [sample])
      (anomalies +
        ((observeTopic sample.topicId sample.sequence topics).1.any Order.isAnomaly).toNat) := by
  have hreceived : ∀ topic ∈ topics, topic.2.received.toNat + 1 < 2 ^ 64 := by
    intro topic htopic
    have hle := le_sum_map (fun topic ↦ topic.2.received.toNat) htopic
    rw [h.received_eq] at hle
    omega
  have hanomalies : ∀ topic ∈ topics, topic.2.anomalies + 1 < 2 ^ 64 := by
    intro topic htopic
    have hle := le_sum_map (fun topic ↦ topic.2.anomalies) htopic
    have hall := h.anomalies_le
    rw [h.anomalies_eq] at hle
    omega
  refine ⟨ascending_observeTopic h.ascending, fun topicId ↦ ?_, ?_, ?_, ?_⟩
  · rw [mem_observeTopic, h.mem_iff]
    simp [or_and_right, exists_or, eq_comm]
  · rw [sum_observeTopic (·.received.toNat) (fun _ ↦ 1), h.received_eq, List.length_append]
    · rfl
    · rfl
    · exact fun topic htopic ↦ TopicTrack.toNat_received_observe (hreceived topic htopic) _
  · rw [sum_observeTopic TopicTrack.anomalies fun answer ↦ (answer.any Order.isAnomaly).toNat,
      h.anomalies_eq]
    · rfl
    · exact fun topic htopic ↦ TopicTrack.anomalies_observe (hanomalies topic htopic) _
  · rw [List.length_append, List.length_singleton]
    exact Nat.add_le_add h.anomalies_le (Bool.toNat_le _)

/-! ### One datagram -/

/-- The data that a datagram is, if it is data. -/
def sample? : Datagram → Option Data
  | .data sample => some sample
  | _ => none

theorem sample?_eq_some_iff {d : Datagram} {sample : Data} :
    sample? d = some sample ↔ d = .data sample := by
  cases d <;> simp [sample?]

theorem isSome_sample? (d : Datagram) : (sample? d).isSome = (d.kind == .data) := by
  cases d <;> rfl

/-- There are as many data as datagrams of their kind. -/
theorem length_filterMap_sample? (ds : List Datagram) :
    (ds.filterMap sample?).length = (ds.map Datagram.kind).count .data := by
  rw [List.length_filterMap_eq_countP, List.count, List.countP_map]
  exact List.countP_congr fun d _ ↦ by rw [isSome_sample?]; rfl

/-- What is counted of every datagram. -/
def counted (stats : Stats) (d : Datagram) : Stats :=
  { stats with
    datagrams := stats.datagrams + 1
    bytesDecoded := stats.bytesDecoded + UInt64.ofNat d.encodedLength
    perKind := countKind d.kind stats.perKind }

theorem record_of_sample?_eq_none {d : Datagram} (h : sample? d = none) (stats : Stats) :
    stats.record d = (none, stats.counted d) := by
  cases d <;> first | rfl | cases h

theorem stopped_record (stats : Stats) (d : Datagram) :
    (stats.record d).2.stopped = stats.stopped := by
  cases d <;> rfl

/-- What statistics say that have counted the given datagrams and found so many sequence numbers out
of their place. -/
structure Accounts (stats : Stats) (ds : List Datagram) (anomalies : Nat) : Prop where
  datagrams_eq : stats.datagrams = UInt64.ofNat ds.length
  bytesDecoded_eq : stats.bytesDecoded = UInt64.ofNat (Datagram.encodedLengths ds)
  perKind : CountsOf stats.perKind (ds.map Datagram.kind)
  topics : Tracks stats.topics (ds.filterMap sample?) anomalies

namespace Accounts

variable {stats : Stats} {ds : List Datagram} {anomalies : Nat}

theorem fresh : Accounts fresh [] 0 where
  datagrams_eq := rfl
  bytesDecoded_eq := rfl
  perKind := ⟨List.nodup_nil, fun _ ↦ Iff.rfl, fun _ ↦ rfl, rfl⟩
  topics := ⟨List.Pairwise.nil, fun _ ↦ by simp [Stats.fresh], rfl, rfl, Nat.le_refl 0⟩

/-- One more datagram is counted. -/
theorem record (h : Accounts stats ds anomalies) (hlength : ds.length + 1 < 2 ^ 64)
    (d : Datagram) :
    Accounts (stats.record d).2 (ds ++ [d])
      (anomalies + ((stats.record d).1.any Order.isAnomaly).toNat) := by
  have hdatagrams : (stats.counted d).datagrams = UInt64.ofNat (ds ++ [d]).length := by
    simp [counted, h.datagrams_eq]
  have hbytes :
      (stats.counted d).bytesDecoded = UInt64.ofNat (Datagram.encodedLengths (ds ++ [d])) := by
    rw [Datagram.encodedLengths_concat, UInt64.ofNat_add, ← h.bytesDecoded_eq]
    rfl
  have hkinds : CountsOf (stats.counted d).perKind ((ds ++ [d]).map Datagram.kind) := by
    rw [List.map_append]
    exact h.perKind.countKind (by rwa [List.length_map]) d.kind
  cases hsample : sample? d with
  | none =>
    rw [record_of_sample?_eq_none hsample]
    refine ⟨hdatagrams, hbytes, hkinds, ?_⟩
    simpa [hsample, counted] using h.topics
  | some sample =>
    cases sample?_eq_some_iff.mp hsample
    have hsamples : (ds.filterMap sample?).length + 1 < 2 ^ 64 :=
      Nat.lt_of_le_of_lt (Nat.succ_le_succ (List.length_filterMap_le _ _)) hlength
    refine ⟨hdatagrams, hbytes, hkinds, ?_⟩
    rw [List.filterMap_append]
    exact h.topics.observeTopic hsamples sample

/-! Of fewer datagrams than a count can hold the account is exact. -/

theorem toNat_lookup (h : Accounts stats ds anomalies) (hlength : ds.length < 2 ^ 64)
    (kind : Kind) :
    ((stats.perKind.lookup kind).getD 0).toNat = (ds.map Datagram.kind).count kind := by
  have hle := List.count_le_length (a := kind) (l := ds.map Datagram.kind)
  rw [List.length_map] at hle
  exact toNat_of_eq_ofNat (h.perKind.lookup_eq kind) (Nat.lt_of_le_of_lt hle hlength)

/-- All the data is received on the tracks of the topics. -/
theorem received_eq_lookup (h : Accounts stats ds anomalies) (hlength : ds.length < 2 ^ 64) :
    (stats.topics.map fun topic ↦ topic.2.received.toNat).sum =
      ((stats.perKind.lookup .data).getD 0).toNat := by
  rw [h.topics.received_eq, h.toNat_lookup hlength, length_filterMap_sample?]

theorem nodup_topics (h : Accounts stats ds anomalies) : (stats.topics.map Prod.fst).Nodup :=
  nodup_keys h.topics.ascending

theorem mem_topics_iff (h : Accounts stats ds anomalies) (topicId : UInt64) :
    topicId ∈ stats.topics.map Prod.fst ↔
      ∃ sample, .data sample ∈ ds ∧ sample.topicId = topicId := by
  rw [h.topics.mem_iff]
  simp [sample?_eq_some_iff]

end Accounts

/-! ### All datagrams -/

/-- Counts datagrams in order. Answers what each is answered. -/
def recordAll : Stats → List Datagram → List (Option Order) × Stats
  | stats, [] => ([], stats)
  | stats, d :: ds =>
    let (order?, stats) := stats.record d
    let (orders, stats) := recordAll stats ds
    (order? :: orders, stats)

theorem recordAll_cons (stats : Stats) (d : Datagram) (ds : List Datagram) :
    stats.recordAll (d :: ds) =
      ((stats.record d).1 :: ((stats.record d).2.recordAll ds).1,
        ((stats.record d).2.recordAll ds).2) := rfl

theorem stopped_recordAll (stats : Stats) (ds : List Datagram) :
    (stats.recordAll ds).2.stopped = stats.stopped := by
  induction ds generalizing stats with
  | nil => rfl
  | cons d ds ih => rw [recordAll_cons, ih, stopped_record]

/-- Datagrams in a row are counted. -/
theorem Accounts.recordAll {stats : Stats} {past ds : List Datagram} {anomalies : Nat}
    (h : Accounts stats past anomalies) (hlength : past.length + ds.length < 2 ^ 64) :
    Accounts (stats.recordAll ds).2 (past ++ ds)
      (anomalies + (stats.recordAll ds).1.countP (·.any Order.isAnomaly)) := by
  induction ds generalizing stats past anomalies with
  | nil => simpa [Stats.recordAll] using h
  | cons d ds ih =>
    rw [List.length_cons] at hlength
    have hnext := ih (h.record (by omega) d)
      (by rw [List.length_append, List.length_singleton]; omega)
    have hfirst : anomalies + ((stats.record d).1.any Order.isAnomaly).toNat =
        anomalies + if (stats.record d).1.any Order.isAnomaly then 1 else 0 := by
      cases (stats.record d).1.any Order.isAnomaly <;> rfl
    rw [List.append_assoc, List.singleton_append, hfirst] at hnext
    rw [recordAll_cons, List.countP_cons, Nat.add_comm (List.countP _ _), ← Nat.add_assoc]
    exact hnext

end Stats

end TopicWire
