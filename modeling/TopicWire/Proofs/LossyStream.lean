import TopicWire.Proofs.SerialOrder
import TopicWire.Proofs.TopicConservation

/-!
# A stream that loses numbers

A sender numbers what it sends one after the other, and some of it is lost. What is left has numbers
at growing offsets from the first (`TopicTrack.Grows`, `TopicTrack.remaining`). As long as no loss
is half the circle long, each offset is answered by the step that leads to it
(`Sequence.classify_add_ofNat`), so a track that is given what is left accounts for the steps
(`TopicTrack.accounts_remaining`): the numbers it counts missing are those lost, however often they
wrap around.

Late copies do not disturb this. Numbers that lie up to half the circle behind the last one accepted
may come in anywhere after the first (`TopicTrack.WithLate`). A track that is given them too differs
from one that is not by what it counts as received, as duplicates and as reordered
(`TopicTrack.LateBy`); this is kept by a number that both are given (`TopicTrack.LateBy.observe`)
and by a late one (`TopicTrack.LateBy.observe_late`).
-/

set_option autoImplicit false
set_option relaxedAutoImplicit false

namespace TopicWire

/-! ### The order of a step -/

namespace Sequence

/-- The order of a number so many steps ahead. -/
def Order.ofStep (step : Nat) : Order :=
  if step = 1 then .inOrder else .gap (UInt32.ofNat (step - 1))

namespace Order

variable {step : Nat}

theorem reach_ofStep (hpos : 0 < step) (hshort : step < 2 ^ 31) : (ofStep step).reach = step := by
  unfold ofStep
  split_ifs with hone
  · exact hone.symm
  · have hmissing : (UInt32.ofNat (step - 1)).toNat = step - 1 := by
      apply UInt32.toNat_ofNat_of_lt'
      show _ < 2 ^ 32
      omega
    rw [reach, hmissing]
    omega

theorem isGap_ofStep (hpos : 0 < step) : (ofStep step).isGap = decide (2 ≤ step) := by
  unfold ofStep
  split_ifs with hone
  · rw [hone]
    rfl
  · have htwo : 2 ≤ step := by omega
    rw [decide_eq_true htwo]
    rfl

theorem isAccepted_ofStep (step : Nat) : (ofStep step).isAccepted = true := by
  unfold ofStep
  split_ifs <;> rfl

end Order

/-- Numbers at two offsets from a start are as far apart as the offsets. -/
theorem distance_add_ofNat (start : UInt32) {k k' : Nat} (hle : k ≤ k') (hlt : k' - k < 2 ^ 32) :
    distance (start + UInt32.ofNat k) (start + UInt32.ofNat k') = k' - k := by
  rw [distance_eq_mod, UInt32.toNat_add, UInt32.toNat_add, UInt32.toNat_ofNat', UInt32.toNat_ofNat']
  omega

/-- A number at a later offset, less than half the circle ahead, is answered by the step to it. -/
theorem classify_add_ofNat (start : UInt32) {k k' : Nat} (hlt : k < k') (hshort : k' - k < 2 ^ 31) :
    classify (start + UInt32.ofNat k) (start + UInt32.ofNat k') = Order.ofStep (k' - k) := by
  rw [classify_eq, distance_add_ofNat start (Nat.le_of_lt hlt) (by omega), if_neg (by omega),
    if_pos hshort]
  rfl

/-- A number up to half the circle behind is a duplicate if it is the last one, and late if not. -/
theorem classify_sub {behind : UInt32} (last : UInt32) (h : behind ≤ 0x80000000) :
    classify last (last - behind) = if behind = 0 then .duplicate else .reordered := by
  have hdistance : distance last (last - behind) = (2 ^ 32 - behind.toNat) % 2 ^ 32 := by
    have hlast := last.toNat_lt
    have hbehind := behind.toNat_lt
    rw [distance_eq_mod, UInt32.toNat_sub]
    omega
  have hle : behind.toNat ≤ 2 ^ 31 := UInt32.le_iff_toNat_le.mp h
  split_ifs with hzero
  · rw [classify_eq_duplicate_iff, hdistance, hzero]
    rfl
  · have hpos : behind.toNat ≠ 0 := fun hnat ↦ hzero (UInt32.toNat_inj.mp hnat)
    rw [classify_eq_reordered_iff, hdistance]
    omega

end Sequence

namespace TopicTrack

open Sequence

/-! ### What is left of a stream -/

/-- Offsets that grow from zero, each step by less than half the circle. -/
structure Grows (offset : Nat → Nat) (steps : Nat) : Prop where
  zero : offset 0 = 0
  lt : ∀ j < steps, offset j < offset (j + 1)
  short : ∀ j < steps, offset (j + 1) - offset j ≤ 2 ^ 31 - 1

/-- The first numbers of what is left of a stream: those at the given offsets from its start. -/
def remaining (start : UInt32) (offset : Nat → Nat) (count : Nat) : List UInt32 :=
  (List.range count).map fun j ↦ start + UInt32.ofNat (offset j)

/-- The orders of the steps from each offset to the next. -/
def stepOrders (offset : Nat → Nat) (steps : Nat) : List Order :=
  (List.range steps).map fun j ↦ Order.ofStep (offset (j + 1) - offset j)

section Stream

variable {offset : Nat → Nat} {steps : Nat}

theorem Grows.of_succ (h : Grows offset (steps + 1)) : Grows offset steps where
  zero := h.zero
  lt := fun j hj ↦ h.lt j (Nat.lt_succ_of_lt hj)
  short := fun j hj ↦ h.short j (Nat.lt_succ_of_lt hj)

theorem Grows.steps_le (h : Grows offset steps) : steps ≤ offset steps := by
  induction steps with
  | zero => exact Nat.zero_le _
  | succ steps ih =>
    exact Nat.succ_le_of_lt (Nat.lt_of_le_of_lt (ih h.of_succ) (h.lt steps (Nat.lt_succ_self _)))

@[simp] theorem length_stepOrders : (stepOrders offset steps).length = steps := by
  simp [stepOrders]

/-- The steps lead from the start to the last offset. -/
theorem sum_reach_stepOrders (h : Grows offset steps) :
    ((stepOrders offset steps).map Order.reach).sum = offset steps := by
  induction steps with
  | zero => exact h.zero.symm
  | succ steps ih =>
    have hlt := h.lt steps (Nat.lt_succ_self steps)
    have hshort := h.short steps (Nat.lt_succ_self steps)
    have hreach : (Order.ofStep (offset (steps + 1) - offset steps)).reach =
        offset (steps + 1) - offset steps :=
      Order.reach_ofStep (by omega) (by omega)
    have hprevious := ih h.of_succ
    rw [stepOrders] at hprevious ⊢
    rw [List.range_succ, List.map_append, List.map_append, List.sum_append, hprevious]
    simp only [List.map_cons, List.map_nil, List.sum_singleton, hreach]
    omega

/-- Every step is accepted. -/
theorem count_stepOrders {order : Order} (horder : order.isAccepted = false) :
    (stepOrders offset steps).count order = 0 := by
  rw [List.count_eq_zero]
  intro hmem
  obtain ⟨j, -, rfl⟩ := List.mem_map.mp hmem
  rw [Order.isAccepted_ofStep] at horder
  cases horder

theorem countP_isGap_stepOrders (h : Grows offset steps) :
    (stepOrders offset steps).countP Order.isGap =
      (List.range steps).countP fun j ↦ 2 ≤ offset (j + 1) - offset j := by
  rw [stepOrders, List.countP_map]
  refine List.countP_congr fun j hj ↦ ?_
  have hlt := h.lt j (List.mem_range.mp hj)
  rw [Function.comp_apply, Order.isGap_ofStep (by omega)]

/-- The numbers missing are those skipped: all up to the last offset but the ones that came. -/
theorem sum_missing_stepOrders (h : Grows offset steps) :
    ((stepOrders offset steps).map Order.missing).sum = offset steps - steps := by
  have hreach := sum_reach_stepOrders h
  have hlength := Order.length_eq_counts (stepOrders offset steps)
  have hduplicates : (stepOrders offset steps).count .duplicate = 0 := count_stepOrders rfl
  have hreordered : (stepOrders offset steps).count .reordered = 0 := count_stepOrders rfl
  rw [hduplicates, hreordered, length_stepOrders] at hlength
  rw [Order.sum_reach_eq] at hreach
  omega

theorem observeAll_concat (track : TopicTrack) (sequences : List UInt32) (sequence : UInt32) :
    (track.observeAll (sequences ++ [sequence])).2 =
      ((track.observeAll sequences).2.observe sequence).2 := by
  induction sequences generalizing track with
  | nil => rfl
  | cons first sequences ih =>
    rw [List.cons_append, observeAll_cons, observeAll_cons]
    exact ih _

/-- A track that is given what is left of a stream accounts for the steps. -/
theorem accounts_remaining (h : Grows offset steps) (start : UInt32) :
    (fresh.observeAll (remaining start offset (steps + 1))).2.Accounts start
      (stepOrders offset steps) := by
  -- The last number accepted is the one at the last offset, so the next is answered by the step.
  induction steps with
  | zero =>
    have hfirst : remaining start offset 1 = [start] := by
      simp [remaining, h.zero]
    rw [hfirst]
    exact Accounts.start start
  | succ steps ih =>
    have hlt := h.lt steps (Nat.lt_succ_self steps)
    have hshort := h.short steps (Nat.lt_succ_self steps)
    have hprevious := ih h.of_succ
    have hlast := hprevious.lastSeen_eq
    rw [sum_reach_stepOrders h.of_succ] at hlast
    obtain ⟨order, horder, hnext⟩ :=
      hprevious.observe (start + UInt32.ofNat (offset (steps + 1)))
    rw [observe_of_lastSeen hlast, classify_add_ofNat start hlt (by omega)] at horder
    cases horder
    have hremaining : remaining start offset (steps + 1 + 1) =
        remaining start offset (steps + 1) ++ [start + UInt32.ofNat (offset (steps + 1))] := by
      rw [remaining, List.range_succ, List.map_append]
      rfl
    have horders : stepOrders offset (steps + 1) =
        stepOrders offset steps ++ [Order.ofStep (offset (steps + 1) - offset steps)] := by
      rw [stepOrders, List.range_succ, List.map_append]
      rfl
    rw [hremaining, observeAll_concat, horders]
    exact hnext

end Stream

/-! ### Late numbers -/

/-- A list of numbers with late ones put in, each of them by how far it lies behind the last number
that the track has accepted by then: up to half the circle. -/
inductive WithLate : TopicTrack → List UInt32 → List UInt32 → List UInt32 → Prop
  | nil (track : TopicTrack) : WithLate track [] [] []
  | next {track : TopicTrack} {kept behinds run : List UInt32} (sequence : UInt32)
    (hrest : WithLate (track.observe sequence).2 kept behinds run) :
    WithLate track (sequence :: kept) behinds (sequence :: run)
  | late {track : TopicTrack} {kept behinds run : List UInt32} {last : UInt32} (behind : UInt32)
    (hlast : track.lastSeen = some last) (hbehind : behind ≤ 0x80000000)
    (hrest : WithLate (track.observe (last - behind)).2 kept behinds run) :
    WithLate track kept (behind :: behinds) ((last - behind) :: run)

/-- What late numbers change on a track. -/
structure LateBy (late track : TopicTrack) (behinds : List UInt32) : Prop where
  lastSeen_eq : late.lastSeen = track.lastSeen
  gaps_eq : late.gaps = track.gaps
  missing_eq : late.missing = track.missing
  received_eq : late.received = track.received + UInt64.ofNat behinds.length
  duplicates_eq : late.duplicates = track.duplicates + UInt64.ofNat (behinds.count 0)
  reordered_eq : late.reordered = track.reordered + UInt64.ofNat (behinds.countP (· ≠ 0))

section Late

variable {late track : TopicTrack} {behinds : List UInt32}

theorem LateBy.refl (track : TopicTrack) : LateBy track track [] := by
  constructor <;> simp

/-- A number that both tracks are given changes both alike. -/
theorem LateBy.observe (h : LateBy late track behinds) (sequence : UInt32) :
    LateBy (late.observe sequence).2 (track.observe sequence).2 behinds := by
  have hlast := h.lastSeen_eq
  have hcomm (count n m : UInt64) : count + n + m = count + m + n := by ac_rfl
  cases htrack : track.lastSeen with
  | none =>
    rw [htrack] at hlast
    simp only [TopicTrack.observe, hlast, htrack]
    refine ⟨rfl, h.gaps_eq, h.missing_eq, ?_, h.duplicates_eq, h.reordered_eq⟩
    rw [h.received_eq]
    exact hcomm ..
  | some last =>
    rw [htrack] at hlast
    rw [observe_of_lastSeen hlast, observe_of_lastSeen htrack]
    constructor
    · simp only [lastSeen_tally, hlast, htrack]
    · simp only [gaps_tally, h.gaps_eq]
    · simp only [missing_tally, h.missing_eq]
    · simp only [received_tally, h.received_eq]
      exact hcomm ..
    · simp only [duplicates_tally, h.duplicates_eq]
      exact hcomm ..
    · simp only [reordered_tally, h.reordered_eq]
      exact hcomm ..

/-- A late number changes the track that is given it by what it is counted as. -/
theorem LateBy.observe_late (h : LateBy late track behinds) {last behind : UInt32}
    (hlast : late.lastSeen = some last) (hbehind : behind ≤ 0x80000000) :
    LateBy (late.observe (last - behind)).2 track (behinds ++ [behind]) := by
  have hreceived : late.received + 1 =
      track.received + UInt64.ofNat (behinds ++ [behind]).length := by
    rw [List.length_append, UInt64.ofNat_add, ← UInt64.add_assoc, h.received_eq]
    rfl
  rw [observe_of_lastSeen hlast, classify_sub last hbehind]
  by_cases hzero : behind = 0
  · rw [if_pos hzero]
    refine ⟨h.lastSeen_eq, h.gaps_eq, h.missing_eq, hreceived, ?_, ?_⟩
    · simp [tally, h.duplicates_eq, hzero, UInt64.add_assoc]
    · simp [tally, h.reordered_eq, hzero]
  · rw [if_neg hzero]
    refine ⟨h.lastSeen_eq, h.gaps_eq, h.missing_eq, hreceived, ?_, ?_⟩
    · simp [tally, h.duplicates_eq, hzero]
    · simp [tally, h.reordered_eq, hzero, UInt64.add_assoc]

/-- Late numbers change a track by what they are counted as. -/
theorem WithLate.lateBy {kept later run : List UInt32} (h : WithLate late kept later run)
    (hlate : LateBy late track behinds) :
    LateBy (late.observeAll run).2 (track.observeAll kept).2 (behinds ++ later) := by
  -- What the two tracks differ by at any point are the late numbers up to there.
  induction h generalizing track behinds with
  | nil late =>
    rw [List.append_nil]
    exact hlate
  | next sequence hrest ih =>
    rw [observeAll_cons, observeAll_cons]
    exact ih (hlate.observe sequence)
  | late behind hlast hbehind hrest ih =>
    rw [observeAll_cons, List.append_cons]
    exact ih (hlate.observe_late hlast hbehind)

theorem WithLate.length_eq {kept later run : List UInt32} (h : WithLate late kept later run) :
    run.length = kept.length + later.length := by
  induction h with
  | nil late => rfl
  | next sequence hrest ih =>
    rw [List.length_cons, List.length_cons, ih, Nat.add_right_comm]
  | late behind hlast hbehind hrest ih =>
    rw [List.length_cons, List.length_cons, ih, Nat.add_assoc]

end Late

/-- Loss is counted exactly. A track that is given what is left of a stream counts every number as
received and none as late, counts missing what was skipped, however often the numbers wrap around,
and a gap for every step of two or more, and it ends at the last number. Late numbers put in
anywhere after the first, each up to half the circle behind the last one accepted by then, are
counted as received, and as duplicates if they are that one and as reordered if not, and change
nothing else. Counts are 64-bit words, so those of received numbers are exact of fewer than such a
word can count. -/
theorem observeAll_counts_loss (start : UInt32) (offset : Nat → Nat) (steps : Nat)
    (hgrows : Grows offset steps) (hlast : offset steps < 2 ^ 64) :
    let stream := remaining start offset (steps + 1)
    let track := (fresh.observeAll stream).2
    (track.duplicates = 0 ∧ track.reordered = 0 ∧
        track.received = UInt64.ofNat (steps + 1) ∧
        (steps + 1 < 2 ^ 64 → track.received.toNat = steps + 1) ∧
        track.missing.toNat = offset steps - steps ∧
        track.gaps.toNat = (List.range steps).countP (fun j ↦ 2 ≤ offset (j + 1) - offset j) ∧
        track.lastSeen = some (start + UInt32.ofNat (offset steps))) ∧
      ∀ behinds run, WithLate fresh stream behinds run → run.length < 2 ^ 64 →
        let late := (fresh.observeAll run).2
        (late.lastSeen = track.lastSeen ∧ late.gaps = track.gaps ∧
            late.missing = track.missing) ∧
          late.received.toNat = steps + 1 + behinds.length ∧
          late.duplicates.toNat = behinds.count 0 ∧
          late.reordered.toNat = behinds.countP (· ≠ 0) := by
  intro stream track
  have haccounts : track.Accounts start (stepOrders offset steps) :=
    accounts_remaining hgrows start
  have hreceived : track.received = UInt64.ofNat (steps + 1) := by
    rw [haccounts.received_eq, length_stepOrders]
  have hduplicates : track.duplicates = 0 := by
    rw [haccounts.duplicates_eq, count_stepOrders rfl]
    rfl
  have hreordered : track.reordered = 0 := by
    rw [haccounts.reordered_eq, count_stepOrders rfl]
    rfl
  have hmissing : track.missing = UInt64.ofNat (offset steps - steps) := by
    rw [haccounts.missing_eq, sum_missing_stepOrders hgrows]
  have hgaps : track.gaps.toNat = (stepOrders offset steps).countP Order.isGap := by
    have hle := hgrows.steps_le
    have hcount := List.countP_le_length (p := Order.isGap) (l := stepOrders offset steps)
    rw [length_stepOrders] at hcount
    exact toNat_of_eq_ofNat haccounts.gaps_eq (by omega)
  refine ⟨⟨hduplicates, hreordered, hreceived, toNat_of_eq_ofNat hreceived,
    toNat_of_eq_ofNat hmissing (by omega), by rw [hgaps, countP_isGap_stepOrders hgrows], ?_⟩, ?_⟩
  · rw [haccounts.lastSeen_eq, sum_reach_stepOrders hgrows]
  · intro behinds run hrun hlength late
    have hlate : late.LateBy track behinds := hrun.lateBy (LateBy.refl fresh)
    have hstream : stream.length = steps + 1 := by simp [stream, remaining]
    rw [hrun.length_eq, hstream] at hlength
    refine ⟨⟨hlate.lastSeen_eq, hlate.gaps_eq, hlate.missing_eq⟩, ?_, ?_, ?_⟩
    · refine toNat_of_eq_ofNat ?_ hlength
      rw [hlate.received_eq, hreceived, UInt64.ofNat_add _ behinds.length]
    · refine toNat_of_eq_ofNat ?_ (Nat.lt_of_le_of_lt List.count_le_length (by omega))
      rw [hlate.duplicates_eq, hduplicates, UInt64.zero_add]
    · refine toNat_of_eq_ofNat ?_ (Nat.lt_of_le_of_lt List.countP_le_length (by omega))
      rw [hlate.reordered_eq, hreordered, UInt64.zero_add]

/-- From 2^32 - 2 on, with the longest gap there is and, before it, the same number again and one
that lies half the circle behind. -/
theorem observeAll_counts_loss_wrap :
    let offset : Nat → Nat := fun j ↦ [0, 1, 4, 0x80000003].getD j 0
    let run : List UInt32 := [0xFFFFFFFE, 0xFFFFFFFF, 2, 2 - 0, 2 - 0x80000000, 0x80000001]
    Grows offset 3 ∧ WithLate fresh (remaining 0xFFFFFFFE offset 4) [0, 0x80000000] run ∧
      (fresh.observeAll run).2.missing.toNat = 0x80000003 - 3 ∧
      (fresh.observeAll run).2.gaps.toNat = 2 ∧
      (fresh.observeAll run).2.received.toNat = 4 + 2 ∧
      (fresh.observeAll run).2.duplicates.toNat = 1 ∧
      (fresh.observeAll run).2.reordered.toNat = 1 := by
  intro offset run
  have hgrows : Grows offset 3 := ⟨rfl, by decide, by decide⟩
  have hstream : remaining 0xFFFFFFFE offset 4 = [0xFFFFFFFE, 0xFFFFFFFF, 2, 0x80000001] := by
    decide
  have hrun : WithLate fresh (remaining 0xFFFFFFFE offset 4) [0, 0x80000000] run := by
    rw [hstream]
    refine .next _ (.next _ (.next _ (.late 0 ?_ (by decide) (.late 0x80000000 ?_ (by decide)
      (.next _ (.nil _))))))
    · rfl
    · rfl
  obtain ⟨⟨-, -, -, -, hmissing, hgaps, -⟩, hlate⟩ :=
    observeAll_counts_loss 0xFFFFFFFE offset 3 hgrows (by decide)
  obtain ⟨⟨-, hsameGaps, hsameMissing⟩, hreceived, hduplicates, hreordered⟩ :=
    hlate _ run hrun (by decide)
  refine ⟨hgrows, hrun, ?_, ?_, hreceived, hduplicates, hreordered⟩
  · rw [hsameMissing, hmissing]
    rfl
  · rw [hsameGaps, hgaps]
    rfl

end TopicTrack

end TopicWire
