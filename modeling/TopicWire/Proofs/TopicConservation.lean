import Mathlib.Algebra.GroupWithZero.Nat
import Mathlib.Algebra.Order.BigOperators.Group.List
import TopicWire.Capture.Track

/-!
# What a track conserves

A track keeps the last number accepted and five counts, and nothing else of what it was given. Yet
every number after the first is counted once, by its order, and the last number accepted lies ahead
of the first by exactly the numbers accepted since and the numbers counted missing.

An order says how far it moves the last number accepted (`Sequence.Order.reach`), and a number that
is accepted lies that far ahead (`Sequence.eq_add_reach_of_classify`). So what a track says after
the orders it has answered (`TopicTrack.Accounts`) is kept by the next number
(`TopicTrack.Accounts.observe`) and by any more of them (`TopicTrack.Accounts.observeAll`).
-/

set_option autoImplicit false
set_option relaxedAutoImplicit false

namespace TopicWire

/-- A count that has not wrapped around is exact. -/
theorem toNat_of_eq_ofNat {count : UInt64} {n : Nat} (h : count = UInt64.ofNat n)
    (hn : n < 2 ^ 64) : count.toNat = n := by
  rw [h, UInt64.toNat_ofNat', Nat.mod_eq_of_lt hn]

/-! ### Orders -/

namespace Sequence

namespace Order

/-- Whether numbers were skipped. -/
def isGap : Order → Bool
  | gap _ => true
  | _ => false

/-- How many numbers were skipped. -/
def missing : Order → Nat
  | gap skipped => skipped.toNat
  | _ => 0

/-- Whether the number becomes the last one accepted. -/
def isAccepted : Order → Bool
  | inOrder | gap _ => true
  | duplicate | reordered => false

/-- How far the last number accepted moves. -/
def reach : Order → Nat
  | inOrder => 1
  | gap skipped => skipped.toNat + 1
  | duplicate | reordered => 0

/-- Every order is one of four. -/
theorem length_eq_counts (orders : List Order) :
    orders.length = orders.count .inOrder + orders.countP isGap + orders.count .duplicate +
      orders.count .reordered := by
  induction orders with
  | nil => rfl
  | cons order orders ih =>
    rw [List.length_cons, ih]
    cases order <;> simp [List.countP_cons, isGap] <;> omega

/-- The last number accepted moves by one for each number accepted and by the numbers missing. -/
theorem sum_reach_eq (orders : List Order) :
    (orders.map reach).sum =
      orders.count .inOrder + orders.countP isGap + (orders.map missing).sum := by
  induction orders with
  | nil => rfl
  | cons order orders ih =>
    rw [List.map_cons, List.sum_cons, ih]
    cases order <;> simp [List.countP_cons, isGap, reach, missing] <;> omega

end Order

/-- A number that is accepted lies as far ahead as its order says. -/
theorem eq_add_reach_of_classify {last incoming : UInt32}
    (h : (classify last incoming).isAccepted = true) :
    incoming = last + UInt32.ofNat (classify last incoming).reach := by
  have hdistance : incoming = last + (incoming - last) := by
    rw [UInt32.add_comm, UInt32.sub_add_cancel]
  simp only [classify] at h ⊢
  split_ifs at h ⊢ with hzero hone hahead
  · simp [Order.isAccepted] at h
  · rwa [hone] at hdistance
  · simp [Order.reach, ← hdistance]
  · simp [Order.isAccepted] at h

end Sequence

namespace TopicTrack

open Sequence

/-- Takes in numbers in order. Answers what each is answered. -/
def observeAll : TopicTrack → List UInt32 → List (Option Order) × TopicTrack
  | track, [] => ([], track)
  | track, sequence :: sequences =>
    let (order?, track) := track.observe sequence
    let (orders, track) := observeAll track sequences
    (order? :: orders, track)

theorem observeAll_cons (track : TopicTrack) (sequence : UInt32) (sequences : List UInt32) :
    track.observeAll (sequence :: sequences) =
      ((track.observe sequence).1 :: ((track.observe sequence).2.observeAll sequences).1,
        ((track.observe sequence).2.observeAll sequences).2) := rfl

/-! ### One number -/

section Tally

variable (track : TopicTrack) (sequence : UInt32) (order : Order)

@[simp] theorem received_tally : (track.tally sequence order).received = track.received := by
  cases order <;> rfl

@[simp] theorem gaps_tally : (track.tally sequence order).gaps =
    track.gaps + UInt64.ofNat (if order.isGap then 1 else 0) := by
  cases order <;> simp [tally, Order.isGap]

@[simp] theorem missing_tally : (track.tally sequence order).missing =
    track.missing + UInt64.ofNat order.missing := by
  cases order <;> simp [tally, Order.missing]

@[simp] theorem duplicates_tally : (track.tally sequence order).duplicates =
    track.duplicates + UInt64.ofNat (if order = .duplicate then 1 else 0) := by
  cases order <;> simp [tally]

@[simp] theorem reordered_tally : (track.tally sequence order).reordered =
    track.reordered + UInt64.ofNat (if order = .reordered then 1 else 0) := by
  cases order <;> simp [tally]

theorem lastSeen_tally : (track.tally sequence order).lastSeen =
    if order.isAccepted then some sequence else track.lastSeen := by
  cases order <;> rfl

end Tally

theorem observe_of_lastSeen {track : TopicTrack} {last : UInt32}
    (h : track.lastSeen = some last) (sequence : UInt32) :
    track.observe sequence =
      (some (classify last sequence),
        { track with received := track.received + 1 }.tally sequence (classify last sequence)) := by
  simp only [observe, h]

/-- The last number accepted moves as far as the order of the next number says. -/
theorem lastSeen_observe {track : TopicTrack} {last : UInt32} (h : track.lastSeen = some last)
    (sequence : UInt32) :
    (track.observe sequence).2.lastSeen =
      some (last + UInt32.ofNat (classify last sequence).reach) := by
  rw [observe_of_lastSeen h, lastSeen_tally]
  cases haccepted : (classify last sequence).isAccepted with
  | true => exact congrArg some (eq_add_reach_of_classify haccepted)
  | false =>
    have hreach : (classify last sequence).reach = 0 := by
      cases hclass : classify last sequence <;> simp_all [Order.isAccepted, Order.reach]
    simp [h, hreach]

/-- A number that is not accepted leaves the last one accepted and all but two counts alone. -/
theorem observe_of_not_accepted {track : TopicTrack} {sequence : UInt32} {order : Order}
    (h : (track.observe sequence).1 = some order) (horder : order.isAccepted = false) :
    (track.observe sequence).2.lastSeen = track.lastSeen ∧
      (track.observe sequence).2.gaps = track.gaps ∧
      (track.observe sequence).2.missing = track.missing := by
  cases hlast : track.lastSeen with
  | none => simp [observe, hlast] at h
  | some last =>
    rw [observe_of_lastSeen hlast] at h ⊢
    cases h
    rw [lastSeen_tally, gaps_tally, missing_tally, horder, if_neg Bool.false_ne_true, hlast]
    cases hclass : classify last sequence <;>
      simp_all [Order.isAccepted, Order.isGap, Order.missing]

/-! ### A run -/

/-- What a track says that was given a first number and has answered the later ones with the given
orders. -/
structure Accounts (track : TopicTrack) (first : UInt32) (orders : List Order) : Prop where
  lastSeen_eq : track.lastSeen = some (first + UInt32.ofNat (orders.map Order.reach).sum)
  received_eq : track.received = UInt64.ofNat (orders.length + 1)
  gaps_eq : track.gaps = UInt64.ofNat (orders.countP Order.isGap)
  missing_eq : track.missing = UInt64.ofNat (orders.map Order.missing).sum
  duplicates_eq : track.duplicates = UInt64.ofNat (orders.count .duplicate)
  reordered_eq : track.reordered = UInt64.ofNat (orders.count .reordered)

namespace Accounts

variable {track : TopicTrack} {first : UInt32} {orders : List Order}

theorem start (first : UInt32) : (fresh.observe first).2.Accounts first [] := by
  constructor <;> simp [TopicTrack.observe, fresh]

/-- The next number is answered with an order, and that is counted. -/
theorem observe (h : track.Accounts first orders) (sequence : UInt32) :
    ∃ order, (track.observe sequence).1 = some order ∧
      (track.observe sequence).2.Accounts first (orders ++ [order]) := by
  have hlast := lastSeen_observe h.lastSeen_eq sequence
  rw [observe_of_lastSeen h.lastSeen_eq] at hlast ⊢
  refine ⟨_, rfl, ?_⟩
  constructor
  · rw [hlast, List.map_append, List.sum_append, UInt32.ofNat_add, UInt32.add_assoc]
    simp
  · simp [h.received_eq]
  · simp [h.gaps_eq, List.countP_singleton]
  · simp [h.missing_eq]
  · simp [h.duplicates_eq, List.count_singleton]
  · simp [h.reordered_eq, List.count_singleton]

/-- More numbers are answered with orders, and these are counted. -/
theorem observeAll (h : track.Accounts first orders) (sequences : List UInt32) :
    ∃ later, (track.observeAll sequences).1 = later.map some ∧
      later.length = sequences.length ∧
      (track.observeAll sequences).2.Accounts first (orders ++ later) := by
  induction sequences generalizing track orders with
  | nil => exact ⟨[], rfl, rfl, by rwa [List.append_nil]⟩
  | cons sequence sequences ih =>
    obtain ⟨order, horder, hnext⟩ := h.observe sequence
    obtain ⟨later, hlater, hlength, hrest⟩ := ih hnext
    refine ⟨order :: later, ?_, ?_, ?_⟩
    · rw [observeAll_cons, horder, hlater, List.map_cons]
    · rw [List.length_cons, hlength, List.length_cons]
    · rwa [List.append_assoc, List.singleton_append] at hrest

end Accounts

/-- The orders among the answers of a track. -/
def ordersOf (answers : List (Option Order)) : List Order := answers.filterMap id

/-- A track that was given a first number and later ones accounts for all of them, as long as their
number and the number of those missing fit in a count. Each one is counted as received and by its
order, the missing ones are summed up, and the last number accepted lies ahead of the first by the
numbers accepted since and the numbers missing, on the circle of 32-bit words. A duplicate and a
late number leave the last number accepted, the gaps and the missing ones as they are. -/
theorem observeAll_conserves (first : UInt32) (later : List UInt32)
    (hlength : (first :: later).length < 2 ^ 64)
    (hmissing : ((ordersOf (fresh.observeAll (first :: later)).1).map Order.missing).sum < 2 ^ 64) :
    let orders := ordersOf (fresh.observeAll (first :: later)).1
    let track := (fresh.observeAll (first :: later)).2
    let inOrder := orders.count .inOrder
    let gaps := orders.countP Order.isGap
    let duplicates := orders.count .duplicate
    let reordered := orders.count .reordered
    let missing := (orders.map Order.missing).sum
    (track.received.toNat = 1 + inOrder + gaps + duplicates + reordered ∧
        track.received.toNat = (first :: later).length) ∧
      (track.gaps.toNat = gaps ∧ track.duplicates.toNat = duplicates ∧
        track.reordered.toNat = reordered ∧ track.missing.toNat = missing) ∧
      track.lastSeen = some (first + UInt32.ofNat (inOrder + gaps + missing)) ∧
      ∀ (earlier : TopicTrack) (sequence : UInt32) (order : Order),
        (earlier.observe sequence).1 = some order → order = .duplicate ∨ order = .reordered →
        (earlier.observe sequence).2.lastSeen = earlier.lastSeen ∧
          (earlier.observe sequence).2.gaps = earlier.gaps ∧
          (earlier.observe sequence).2.missing = earlier.missing := by
  intro orders track inOrder gaps duplicates reordered missing
  obtain ⟨answered, hanswers, hcount, haccounts⟩ := (Accounts.start first).observeAll later
  have horders : orders = answered := by
    show ((fresh.observe first).1 :: ((fresh.observe first).2.observeAll later).1).filterMap id = _
    rw [hanswers]
    simp [TopicTrack.observe, fresh]
  have htrack : track.Accounts first orders := by
    rw [horders]
    exact haccounts
  rw [← horders] at hcount
  have hsum : orders.length = inOrder + gaps + duplicates + reordered :=
    Order.length_eq_counts orders
  rw [List.length_cons] at hlength
  have hreceived := toNat_of_eq_ofNat htrack.received_eq (by omega)
  refine ⟨⟨by omega, by rw [hreceived, hcount, List.length_cons]⟩, ⟨?_, ?_, ?_, ?_⟩, ?_, ?_⟩
  · exact toNat_of_eq_ofNat htrack.gaps_eq (by omega)
  · exact toNat_of_eq_ofNat htrack.duplicates_eq (by omega)
  · exact toNat_of_eq_ofNat htrack.reordered_eq (by omega)
  · exact toNat_of_eq_ofNat htrack.missing_eq hmissing
  · rw [htrack.lastSeen_eq, Order.sum_reach_eq]
  · rintro earlier sequence order horder (rfl | rfl)
    · exact observe_of_not_accepted horder rfl
    · exact observe_of_not_accepted horder rfl

/-- From 2^32 - 2 on: in order, three ahead over the end of the circle, the same again, late. -/
theorem observeAll_conserves_wrap :
    let run := fresh.observeAll [0xFFFFFFFE, 0xFFFFFFFF, 2, 2, 0]
    ordersOf run.1 = [.inOrder, .gap 2, .duplicate, .reordered] ∧
      run.2.received.toNat = 1 + 1 + 1 + 1 + 1 ∧ run.2.missing.toNat = 2 ∧
      run.2.lastSeen = some (0xFFFFFFFE + UInt32.ofNat (1 + 1 + 2)) := by
  intro run
  obtain ⟨⟨hreceived, -⟩, ⟨-, -, -, hmissing⟩, hlast, -⟩ :=
    observeAll_conserves 0xFFFFFFFE [0xFFFFFFFF, 2, 2, 0] (by decide) (by decide)
  exact ⟨rfl, hreceived, hmissing, hlast⟩

end TopicTrack

end TopicWire
