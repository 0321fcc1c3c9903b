import TopicWire.Proofs.ReportText
import TopicWire.Proofs.TopicIndependence

/-!
# The order of a summary

The counts of the kinds are a table without an order of its own, and a summary puts them into one.
No two entries tie, because no two kinds share a code, so the entries have only one ascending order
and whatever order they are found in leads to it (`Stats.byCode_eq_of_perm`). What is in the table
is what was recorded: an entry for each kind that occurs, with its count
(`Stats.mem_perKind_recordAll`), and a track for each topic that occurs
(`Stats.mem_topics_recordAll`). `Stats.summary_of_perm` puts this together to all the lines of a
summary.
-/

set_option autoImplicit false
set_option relaxedAutoImplicit false

namespace TopicWire

/-- The two kinds without a layout are the kinds of no datagram. -/
theorem Datagram.kind_ne (d : Datagram) : d.kind ≠ .openStream ∧ d.kind ≠ .unknown := by
  constructor <;>
    · intro h
      cases d <;> cases h

namespace Stats

/-! ### Entries by code -/

section ByCode

variable {counts order : List (Kind × UInt64)}

theorem perm_byCode (counts : List (Kind × UInt64)) : (byCode counts).Perm counts :=
  List.mergeSort_perm counts _

/-- Entries by code ascend strictly if no kind has two of them. -/
theorem ascending_byCode (h : (counts.map Prod.fst).Nodup) :
    (byCode counts).Pairwise (·.1.code < ·.1.code) := by
  have htrans : ∀ a b c : Kind × UInt64, decide (a.1.code ≤ b.1.code) = true →
      decide (b.1.code ≤ c.1.code) = true → decide (a.1.code ≤ c.1.code) = true := by
    intro a b c hab hbc
    rw [decide_eq_true_iff] at hab hbc ⊢
    exact UInt8.le_trans hab hbc
  have htotal : ∀ a b : Kind × UInt64,
      (decide (a.1.code ≤ b.1.code) || decide (b.1.code ≤ a.1.code)) = true := by
    intro a b
    rw [Bool.or_eq_true, decide_eq_true_iff, decide_eq_true_iff]
    exact UInt8.le_total a.1.code b.1.code
  have hsorted : (byCode counts).Pairwise fun a b ↦ decide (a.1.code ≤ b.1.code) = true :=
    List.pairwise_mergeSort htrans htotal counts
  have hnodup : ((byCode counts).map Prod.fst).Nodup :=
    ((perm_byCode counts).map Prod.fst).nodup_iff.mpr h
  refine hsorted.imp₂ (fun a b hab hne ↦ ?_) (List.pairwise_map.mp hnodup)
  refine UInt8.lt_of_le_of_ne (of_decide_eq_true hab) fun hcode ↦ ?_
  exact hne (Kind.code_injective hcode)

/-- In whatever order the entries are found, by code they are the same. -/
theorem byCode_eq_of_perm (h : (counts.map Prod.fst).Nodup) (hperm : order.Perm counts) :
    byCode order = byCode counts := by
  have horder : (order.map Prod.fst).Nodup := (hperm.map Prod.fst).nodup_iff.mpr h
  have hentries : (byCode order).Perm (byCode counts) :=
    (perm_byCode order).trans (hperm.trans (perm_byCode counts).symm)
  exact hentries.eq_of_pairwise (fun a b _ _ hab hba ↦ absurd hba (UInt8.lt_asymm hab))
    (ascending_byCode horder) (ascending_byCode h)

end ByCode

/-! ### What has been recorded -/

variable {ds : List Datagram}

/-- The entries of the kinds are those of the kinds that occur, with their counts. -/
theorem mem_perKind_recordAll {kind : Kind} {count : UInt64} :
    (kind, count) ∈ (fresh.recordAll ds).2.perKind ↔
      kind ∈ ds.map Datagram.kind ∧
        count = UInt64.ofNat ((ds.map Datagram.kind).count kind) := by
  rw [← lookup_eq_some_iff_mem (nodup_perKind_recordAll fresh ds List.nodup_nil),
    lookup_perKind_recordAll]
  split_ifs with hkind
  · simp [hkind, fresh, eq_comm]
  · simp [hkind, fresh]

/-- The topics with a track are those with one before and those of the data. -/
theorem mem_topics_recordAll {stats : Stats} {topicId : UInt64} :
    topicId ∈ (stats.recordAll ds).2.topics.map Prod.fst ↔
      topicId ∈ stats.topics.map Prod.fst ∨
        ∃ sample, .data sample ∈ ds ∧ sample.topicId = topicId := by
  induction ds generalizing stats with
  | nil => simp [recordAll]
  | cons d ds ih =>
    rw [recordAll_cons, ih]
    cases hsample : sample? d with
    | none =>
      rw [record_of_sample?_eq_none hsample]
      have hdata : ∀ sample : Data, .data sample ≠ d := by
        rintro sample rfl
        cases hsample
      simp [counted, hdata]
    | some sample =>
      cases sample?_eq_some_iff.mp hsample
      show topicId ∈ (observeTopic sample.topicId sample.sequence stats.topics).2.map Prod.fst ∨
        _ ↔ _
      rw [mem_observeTopic]
      simp [or_and_right, exists_or, or_assoc, eq_comm]

/-! ### The lines -/

/-- The kinds by code are those that occur. -/
theorem mem_kinds_byCode {kind : Kind} :
    kind ∈ (byCode (fresh.recordAll ds).2.perKind).map Prod.fst ↔ kind ∈ ds.map Datagram.kind := by
  rw [((perm_byCode _).map Prod.fst).mem_iff]
  constructor
  · intro h
    obtain ⟨entry, hentry, rfl⟩ := List.mem_map.mp h
    exact (mem_perKind_recordAll.mp hentry).1
  · intro h
    exact List.mem_map.mpr ⟨(kind, _), mem_perKind_recordAll.mpr ⟨h, rfl⟩, rfl⟩

/-- The count that is kept of a kind is the number of its datagrams. Assumes: fewer datagrams than a
count can hold. -/
theorem toNat_count (h : ds.length < 2 ^ 64) (kind : Kind) :
    (UInt64.ofNat ((ds.map Datagram.kind).count kind)).toNat =
      (ds.map Datagram.kind).count kind := by
  have hle : (ds.map Datagram.kind).count kind ≤ ds.length :=
    List.count_le_length.trans_eq (List.length_map Datagram.kind)
  rw [UInt64.toNat_ofNat', Nat.mod_eq_of_lt (Nat.lt_of_le_of_lt hle h)]

/-- The lines of the entries by code are those of the kinds with their counts. -/
theorem map_kindLine_byCode :
    (byCode (fresh.recordAll ds).2.perKind).map kindLine =
      ((byCode (fresh.recordAll ds).2.perKind).map Prod.fst).map fun kind ↦
        "   " ++ String.rightpad 20 ' ' kind.label ++ " " ++
          toString (UInt64.ofNat ((ds.map Datagram.kind).count kind)).toNat := by
  rw [List.map_map]
  refine List.map_congr_left fun entry hentry ↦ ?_
  rw [Function.comp_apply, ← (mem_perKind_recordAll.mp ((perm_byCode _).mem_iff.mp hentry)).2,
    ← Text.flushLeft_eq_rightpad]
  rfl

theorem topicLines_eq (topics : List (UInt64 × TopicTrack)) :
    topicLines topics =
      (if topics = [] then [] else ["", "📡 Topics"]) ++ topics.map fun topic ↦
        "   topic " ++ String.rightpad 10 ' ' (toString topic.1.toNat) ++
          " recv=" ++ toString topic.2.received.toNat ++ " gaps=" ++ toString topic.2.gaps.toNat ++
          " missing=" ++ toString topic.2.missing.toNat ++
          " dup=" ++ toString topic.2.duplicates.toNat ++
          " reordered=" ++ toString topic.2.reordered.toNat := by
  simp only [← Text.flushLeft_eq_rightpad]
  cases topics <;> rfl

/-- The summary of what was recorded does not depend on the order in which the counts of the kinds
are found. In any order its lines are the same: after the totals one for each kind that occurs,
ascending strictly by code, with its label, which no other kind has, and its count, which is exact
of fewer datagrams than a count can hold; then one for each topic that occurs, ascending strictly by
id, with the id and the counts of its track, under a heading if there are any; and at the end the
fault that stopped the reading, if there was one. The kinds without a layout are never among them.
-/
theorem summary_of_perm (ds : List Datagram) :
    let stats := (fresh.recordAll ds).2
    let occurrences (kind : Kind) := (ds.map Datagram.kind).count kind
    ∃ kinds : List Kind,
      (kinds.Pairwise (·.code < ·.code) ∧ (∀ kind, kind ∈ kinds ↔ kind ∈ ds.map Datagram.kind) ∧
        (kinds.map Kind.label).Nodup ∧ .openStream ∉ kinds ∧ .unknown ∉ kinds) ∧
      (stats.topics.Pairwise (·.1 < ·.1) ∧ ∀ topicId, topicId ∈ stats.topics.map Prod.fst ↔
        ∃ sample, .data sample ∈ ds ∧ sample.topicId = topicId) ∧
      (∀ (order : List (Kind × UInt64)) (stopped : Option (Nat × Fault)) (total : Nat),
        order.Perm stats.perKind →
        ({ stats with perKind := order, stopped := stopped } : Stats).summary total =
          ["", "📊 Capture Summary",
            "   Datagrams:     " ++ toString stats.datagrams.toNat,
            "   Bytes decoded: " ++ toString stats.bytesDecoded.toNat ++ " / " ++ toString total] ++
          kinds.map (fun kind ↦ "   " ++ String.rightpad 20 ' ' kind.label ++ " " ++
            toString (UInt64.ofNat (occurrences kind)).toNat) ++
          ((if stats.topics = [] then [] else ["", "📡 Topics"]) ++
            stats.topics.map fun (topicId, track) ↦
              "   topic " ++ String.rightpad 10 ' ' (toString topicId.toNat) ++
                " recv=" ++ toString track.received.toNat ++
                " gaps=" ++ toString track.gaps.toNat ++
                " missing=" ++ toString track.missing.toNat ++
                " dup=" ++ toString track.duplicates.toNat ++
                " reordered=" ++ toString track.reordered.toNat) ++
          (match stopped with
            | none => []
            | some (offset, fault) =>
              ["", "⚠️  Stopped at offset " ++ toString offset ++ ": " ++ fault.message])) ∧
      (ds.length < 2 ^ 64 → ∀ kind,
        (UInt64.ofNat (occurrences kind)).toNat = occurrences kind) := by
  intro stats occurrences
  have hnodup : (stats.perKind.map Prod.fst).Nodup :=
    nodup_perKind_recordAll fresh ds List.nodup_nil
  have hkinds : ∀ kind ∈ ds.map Datagram.kind, kind ≠ .openStream ∧ kind ≠ .unknown :=
    List.forall_mem_map.mpr fun d _ ↦ d.kind_ne
  have hkindsNodup : ((byCode stats.perKind).map Prod.fst).Nodup :=
    ((perm_byCode stats.perKind).map Prod.fst).nodup_iff.mpr hnodup
  refine ⟨(byCode stats.perKind).map Prod.fst, ⟨?_, fun kind ↦ mem_kinds_byCode, ?_, ?_, ?_⟩,
    ⟨ascending_recordAll List.Pairwise.nil ds, fun topicId ↦ ?_⟩, ?_, toNat_count⟩
  · exact List.pairwise_map.mpr (ascending_byCode hnodup)
  · exact hkindsNodup.map fun _ _ ↦ Kind.label_injective
  · exact fun hmem ↦ (hkinds _ (mem_kinds_byCode.mp hmem)).1 rfl
  · exact fun hmem ↦ (hkinds _ (mem_kinds_byCode.mp hmem)).2 rfl
  · rw [mem_topics_recordAll]
    exact or_iff_right List.not_mem_nil
  · intro order stopped total hperm
    show _ ++ (byCode order).map kindLine ++ topicLines stats.topics ++ stoppedLines stopped = _
    rw [byCode_eq_of_perm hnodup hperm, map_kindLine_byCode, topicLines_eq]
    cases stopped <;> rfl

end Stats

end TopicWire
