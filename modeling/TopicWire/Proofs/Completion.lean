import Mathlib.Data.List.Infix
import Mathlib.Data.List.Nodup
import Mathlib.Data.List.Perm.Subperm
import TopicWire.Proofs.FrameOutcome

/-!
# Which cut datagrams can be completed

A refusal for want of bytes says that more bytes may help. They do for every kind but the object
request: whatever the bytes so far, some bytes complete a frame, and every complete frame is read
(`Datagram.completable_of_kind_ne`). The ids of an object request are looked at only when all of
them are there. So a request that is cut may be `ObjectRequest.Blocked` already, by a size that is
no whole number of ids, by an id that came twice, or by a cut id that can only become one that
came before. These are the only refusals for want of bytes that no bytes can lift
(`Datagram.completable_iff_of_truncation`).
-/

set_option autoImplicit false
set_option relaxedAutoImplicit false

namespace TopicWire

/-! ### A run of ids that is cut -/

namespace IdSet

/-- The ids that are whole in a run that may be cut. -/
def whole (bs : Bytes) : List UInt64 := words (bs.length / 8) bs

/-- The bytes of the id in which a run is cut. -/
def part (bs : Bytes) : Bytes := bs.drop (8 * (bs.length / 8))

theorem whole_of_short {bs : Bytes} (h : bs.length < 8) : whole bs = [] := by
  rw [whole, Nat.div_eq_of_lt h]
  rfl

theorem part_of_short {bs : Bytes} (h : bs.length < 8) : part bs = bs := by
  rw [part, Nat.div_eq_of_lt h]
  rfl

theorem length_div_ofUInt64_append (id : UInt64) (bs : Bytes) :
    (Bytes.ofUInt64 id ++ bs).length / 8 = bs.length / 8 + 1 := by
  rw [List.length_append, Bytes.length_ofUInt64]
  omega

theorem whole_ofUInt64_append (id : UInt64) (bs : Bytes) :
    whole (Bytes.ofUInt64 id ++ bs) = id :: whole bs := by
  have hid := Bytes.length_ofUInt64 id
  rw [whole, length_div_ofUInt64_append, words, List.take_left' hid, List.drop_left' hid,
    Bytes.toUInt64_ofUInt64]
  rfl

theorem part_ofUInt64_append (id : UInt64) (bs : Bytes) :
    part (Bytes.ofUInt64 id ++ bs) = part bs := by
  have hid := Bytes.length_ofUInt64 id
  rw [part, length_div_ofUInt64_append, Nat.mul_add, Nat.add_comm, ← List.drop_drop,
    Nat.mul_one, List.drop_left' hid]
  rfl

/-- A run that may be cut is its whole ids and the bytes of the cut one. -/
theorem flatMap_whole_append_part (bs : Bytes) :
    (whole bs).flatMap Bytes.ofUInt64 ++ part bs = bs :=
  flatMap_words_append_drop (Nat.mul_div_le bs.length 8)

/-- In a run of ids that is cut, some id comes after the whole ones, and it starts with the bytes
of the cut one. -/
theorem exists_next_of_cut {bs : Bytes} {ids : List UInt64}
    (h : bs <+: ids.flatMap Bytes.ofUInt64) (hcut : bs.length < encodedLength ids.length) :
    ∃ id more, ids = whole bs ++ id :: more ∧ part bs <+: Bytes.ofUInt64 id := by
  rw [encodedLength] at hcut
  induction ids generalizing bs with
  | nil => cases hcut
  | cons id ids ih =>
    rw [List.flatMap_cons] at h
    by_cases hshort : bs.length < 8
    · refine ⟨id, ids, ?_, ?_⟩
      · rw [whole_of_short hshort]
        rfl
      · rw [part_of_short hshort]
        refine List.prefix_of_prefix_length_le h (List.prefix_append _ _) ?_
        rw [Bytes.length_ofUInt64]
        omega
    · -- The first id is whole, and what is cut is the run of the others.
      have hid : Bytes.ofUInt64 id <+: bs := by
        refine List.prefix_of_prefix_length_le (List.prefix_append _ _) h ?_
        rw [Bytes.length_ofUInt64]
        omega
      obtain ⟨rest, rfl⟩ := hid
      have hrest := (List.prefix_append_right_inj _).mp h
      rw [List.length_append, Bytes.length_ofUInt64, List.length_cons] at hcut
      obtain ⟨next, more, rfl, hpart⟩ := ih hrest (by omega)
      refine ⟨next, more, ?_, ?_⟩
      · rw [whole_ofUInt64_append]
        rfl
      · rw [part_ofUInt64_append]
        exact hpart

/-- There are more ids than a list holds that is shorter than their number. -/
theorem exists_not_mem {ids : List UInt64} (h : ids.length < UInt64.size) : ∃ id, id ∉ ids := by
  apply Classical.byContradiction
  intro hall
  have hmem : ∀ id, id ∈ ids := fun id ↦ Classical.byContradiction fun hid ↦ hall ⟨id, hid⟩
  -- One number more than the list has places, all of them different ids.
  have hdistinct : ((List.range (ids.length + 1)).map UInt64.ofNat).Nodup := by
    refine List.Nodup.map_on ?_ List.nodup_range
    intro a ha b hb hab
    rw [List.mem_range] at ha hb
    rw [← UInt64.toNat_ofNat_of_lt' (by omega : a < UInt64.size), hab,
      UInt64.toNat_ofNat_of_lt' (by omega)]
  have hle := (List.subperm_of_subset hdistinct fun id _ ↦ hmem id).length_le
  rw [List.length_map, List.length_range] at hle
  omega

/-- Distinct ids can be followed by more, as long as there are ids left. -/
theorem exists_nodup_append {ids : List UInt64} (h : ids.Nodup) (count : Nat)
    (hcount : ids.length + count ≤ UInt64.size) :
    ∃ more : List UInt64, more.length = count ∧ (ids ++ more).Nodup := by
  induction count generalizing ids with
  | zero => exact ⟨[], rfl, by rwa [List.append_nil]⟩
  | succ count ih =>
    obtain ⟨id, hid⟩ := exists_not_mem (by omega : ids.length < UInt64.size)
    have hlonger : (id :: ids).length + count ≤ UInt64.size := by
      rw [List.length_cons]
      omega
    obtain ⟨more, hmore, hnodup⟩ := ih (List.nodup_cons.mpr ⟨hid, h⟩) hlonger
    refine ⟨id :: more, by rw [List.length_cons, hmore], ?_⟩
    exact List.perm_middle.nodup_iff.mpr hnodup

/-- A run of distinct ids that is cut can be completed to as many ids as are wanted, if the cut id
can become a new one. -/
theorem exists_ids_of_cut {bs : Bytes} {count : Nat} {id : UInt64}
    (hcut : bs.length < encodedLength count) (hcount : count ≤ UInt64.size)
    (hnodup : (whole bs).Nodup) (hpart : part bs <+: Bytes.ofUInt64 id) (hnew : id ∉ whole bs) :
    ∃ ids : List UInt64, ids.length = count ∧ ids.Nodup ∧ bs <+: ids.flatMap Bytes.ofUInt64 := by
  have hwhole : (whole bs).length = bs.length / 8 := length_words _ bs
  have hlonger : (id :: whole bs).length = bs.length / 8 + 1 := by
    rw [List.length_cons, hwhole]
  rw [encodedLength] at hcut
  obtain ⟨more, hmore, hids⟩ := exists_nodup_append (List.nodup_cons.mpr ⟨hnew, hnodup⟩)
    (count - (bs.length / 8 + 1)) (by omega)
  refine ⟨whole bs ++ id :: more, ?_, List.perm_middle.nodup_iff.mpr hids, ?_⟩
  · rw [List.length_append, hwhole, List.length_cons, hmore]
    omega
  · obtain ⟨rest, hrest⟩ := hpart
    refine ⟨rest ++ more.flatMap Bytes.ofUInt64, ?_⟩
    calc bs ++ (rest ++ more.flatMap Bytes.ofUInt64)
        = (whole bs).flatMap Bytes.ofUInt64 ++ part bs ++
            (rest ++ more.flatMap Bytes.ofUInt64) := by
          rw [flatMap_whole_append_part]
      _ = (whole bs ++ id :: more).flatMap Bytes.ofUInt64 := by
          rw [List.flatMap_append, List.flatMap_cons, ← hrest]
          simp only [List.append_assoc]

end IdSet

/-- The front of an object request that no bytes complete. Its size is no whole number of ids, one
of its whole ids came twice, or the cut id can only become one that came before. -/
inductive ObjectRequest.Blocked (buf : Bytes) : Prop where
  | size (low : UInt8) (hlow : buf[2]? = some low) (h : low.toNat % 8 ≠ 0)
  | repeated (h : ¬ (IdSet.whole (buf.drop 12)).Nodup)
  | exhausted (h : ∀ id, IdSet.part (buf.drop 12) <+: Bytes.ofUInt64 id →
      id ∈ IdSet.whole (buf.drop 12))

namespace Datagram

/-- Some bytes can follow so that a datagram is read. -/
def Completable (buf : Bytes) : Prop := ∃ tail d n, decode (buf ++ tail) = .ok (d, n)

/-- A front of a wire form can be completed to it. -/
theorem completable_of_wireForm {d : Datagram} {w buf : Bytes} (h : WireForm d w)
    (hfront : buf <+: w) : Completable buf := by
  obtain ⟨tail, rfl⟩ := hfront
  have hread := decode_append_of_wireForm h []
  rw [List.append_nil] at hread
  exact ⟨tail, d, _, hread⟩

/-! ### What is still missing -/

/-- Where bytes are wanting, the body that the header declares is not all there. -/
theorem length_lt_of_truncation {code : UInt8} {bs : Bytes} {layout : Layout} {declared : Nat}
    {reason : ProtocolError} (h : decode (code :: bs) = .error (.refused reason))
    (htruncation : reason.isTruncation = true)
    (hlayout : (Kind.ofCode code).layout? = some layout)
    (hbody : layout.bodyLength ((code :: bs).take layout.headerLength) = .ok declared) :
    (code :: bs).length < layout.headerLength + declared := by
  apply Nat.lt_of_not_le
  intro hcomplete
  have hread : Frame.read (Kind.ofCode code) layout (code :: bs) = .ok ⟨_, _⟩ :=
    Frame.read_of_complete hbody hcomplete
  exact not_prefix_of_truncation h htruncation (Frame.isFrameOf_of_read hlayout hread)
    (Frame.read_eq_ok_iff.mp hread).2

/-- Bytes can follow any front of a frame so that the frame is complete. -/
theorem exists_read_append {kind : Kind} {layout : Layout} (h : kind.layout? = some layout)
    (buf : Bytes) : ∃ tail frame, Frame.read kind layout (buf ++ tail) = .ok frame := by
  -- First zeros for what is missing of the header, then zeros for the body that it declares.
  have hheader : layout.headerLength ≤ (buf ++ List.replicate layout.headerLength 0).length := by
    rw [List.length_append, List.length_replicate]
    omega
  obtain ⟨declared, hbody⟩ := Kind.exists_bodyLength h (List.length_take_of_le hheader)
  have htake : ((buf ++ List.replicate layout.headerLength 0) ++ List.replicate declared 0).take
        layout.headerLength =
      (buf ++ List.replicate layout.headerLength 0).take layout.headerLength :=
    List.take_append_of_le_length hheader
  refine ⟨List.replicate layout.headerLength 0 ++ List.replicate declared 0, ?_⟩
  rw [← List.append_assoc]
  refine ⟨_, Frame.read_of_complete (htake ▸ hbody) ?_⟩
  rw [List.length_append, List.length_replicate]
  omega

/-- Whatever has come of a datagram that is no object request, bytes can follow that complete it. -/
theorem completable_of_kind_ne {code : UInt8} {layout : Layout}
    (h : (Kind.ofCode code).layout? = some layout) (hkind : Kind.ofCode code ≠ .objectRequest)
    (bs : Bytes) : Completable (code :: bs) := by
  obtain ⟨tail, frame, hread⟩ := exists_read_append h (code :: bs)
  have hframe := Frame.isFrameOf_of_read h hread
  rcases ofFrame_outcome hframe with ⟨d, hd⟩ | ⟨hobject, -⟩
  · exact ⟨tail, d, _, decode_eq_ok_iff_frame.mpr
      ⟨_, frame, hframe, hd, (Frame.read_eq_ok_iff.mp hread).2, rfl⟩⟩
  · exact absurd hobject hkind

/-! ### Object requests -/

/-- The low byte of the size tells whether it is a whole number of ids. -/
theorem toNat_low_mod (size : UInt16) : (UInt8.ofNat size.toNat).toNat % 8 = size.toNat % 8 := by
  rw [UInt8.toNat_ofNat']
  omega

/-- Nothing blocks the front of an object request that is cut short. -/
theorem not_blocked_of_prefix {code : UInt8} {size : UInt16} {objectId : UInt64}
    {ids : List UInt64} {buf : Bytes} (hsize : size.toNat = IdSet.encodedLength ids.length)
    (hids : ids.Nodup)
    (hfront : buf <+:
      Word.bytesOf [.u8 Kind.objectRequest.code, .u8 code, .u16 size, .u64 objectId] ++
        ids.flatMap Bytes.ofUInt64)
    (hcut : buf.length < 12 + IdSet.encodedLength ids.length) : ¬ ObjectRequest.Blocked buf := by
  have hbody : buf.drop 12 <+: ids.flatMap Bytes.ofUInt64 := hfront.drop 12
  -- What has come of the ids are some whole ones, all distinct, and the bytes of a new one.
  have hnew : (IdSet.whole (buf.drop 12)).Nodup ∧
      ∃ id, IdSet.part (buf.drop 12) <+: Bytes.ofUInt64 id ∧
        id ∉ IdSet.whole (buf.drop 12) := by
    by_cases hshort : (buf.drop 12).length < IdSet.encodedLength ids.length
    · obtain ⟨id, more, hsplit, hpart⟩ := IdSet.exists_next_of_cut hbody hshort
      rw [hsplit] at hids
      obtain ⟨hnodup, -, hdisjoint⟩ := List.nodup_append.mp hids
      refine ⟨hnodup, id, hpart, fun hmem ↦ ?_⟩
      exact hdisjoint id hmem id List.mem_cons_self rfl
    · have hnone : buf.drop 12 = [] := by
        rw [List.length_drop] at hshort
        apply List.eq_nil_of_length_eq_zero
        rw [List.length_drop]
        omega
      rw [hnone]
      exact ⟨List.nodup_nil, 0, List.nil_prefix, List.not_mem_nil⟩
  rintro (⟨low, hlow, hmod⟩ | hrepeated | hexhausted)
  · apply hmod
    obtain ⟨rest, hrest⟩ := hfront
    obtain ⟨hinside, -⟩ := List.getElem?_eq_some_iff.mp hlow
    rw [← List.getElem?_append_left hinside, hrest] at hlow
    cases (hlow : some (UInt8.ofNat size.toNat) = some low)
    rw [toNat_low_mod, hsize, IdSet.encodedLength, Nat.mul_mod_right]
  · exact hrepeated hnew.1
  · obtain ⟨-, id, hpart, hmem⟩ := hnew
    exact hmem (hexhausted id hpart)

/-- A datagram that is read is of the kind that the first byte names. -/
theorem kind_of_decode {code : UInt8} {bs : Bytes} {d : Datagram} {n : Nat}
    (h : decode (code :: bs) = .ok (d, n)) : d.kind = Kind.ofCode code := by
  obtain ⟨fields, body, -, hform⟩ := wireForm_of_decode h
  obtain ⟨m, rfl⟩ := Nat.exists_eq_add_of_le' (consumed_pos h)
  rw [List.take_succ_cons] at hform
  obtain ⟨hcode, -⟩ := List.cons.inj hform
  rw [hcode, Kind.ofCode_code]

/-- Nothing blocks an object request that some bytes complete. -/
theorem not_blocked_of_completable {code : UInt8} {bs : Bytes} {reason : ProtocolError}
    (h : decode (code :: bs) = .error (.refused reason))
    (htruncation : reason.isTruncation = true) (hkind : Kind.ofCode code = .objectRequest)
    (hcompletable : Completable (code :: bs)) : ¬ ObjectRequest.Blocked (code :: bs) := by
  obtain ⟨tail, d, n, hread⟩ := hcompletable
  have hd : d.kind = .objectRequest := (kind_of_decode hread).trans hkind
  obtain ⟨fields, body, hspells, hform⟩ := wireForm_of_decode hread
  have hwhole := not_prefix_of_truncation h htruncation hspells.isFrameOf
  rw [Frame.bytes, ← hform] at hwhole
  -- The datagram is longer than what has come of it, so that is a front of it.
  have hlength : (code :: bs).length < ((code :: bs ++ tail).take n).length := by
    apply Nat.lt_of_not_le
    intro hle
    exact hwhole
      (List.prefix_of_prefix_length_le (List.take_prefix _ _) (List.prefix_append _ _) hle)
  have hfront := List.prefix_of_prefix_length_le (List.prefix_append (code :: bs) tail)
    (List.take_prefix n _) (Nat.le_of_lt hlength)
  rw [hform] at hfront hlength
  cases hspells with
  | objectRequest request action size ids haction hids hsize =>
    have hnodup : ids.Nodup := hids.nodup_iff.mpr request.topicIds.nodup_ids
    rw [IdSet.length_flatMap_ofUInt64] at hsize
    rw [List.length_append, IdSet.length_flatMap_ofUInt64] at hlength
    exact not_blocked_of_prefix hsize hnodup hfront hlength
  | _ => cases hd

/-- A byte string is the front of a header and a body if what there is of each is a front of it. -/
theorem prefix_append_of_take_of_drop {buf header body : Bytes}
    (hheader : buf.take header.length <+: header) (hbody : buf.drop header.length <+: body) :
    buf <+: header ++ body := by
  by_cases hlong : header.length ≤ buf.length
  · have hsplit := List.take_append_drop header.length buf
    rw [hheader.eq_of_length (List.length_take_of_le hlong)] at hsplit
    obtain ⟨rest, rfl⟩ := hbody
    refine ⟨rest, ?_⟩
    rw [← List.append_assoc, hsplit]
  · rw [List.take_of_length_le (by omega)] at hheader
    exact hheader.trans (List.prefix_append _ _)

/-- What there is of the header of an object request that nothing blocks can be completed by zeros,
and the size is then a whole number of ids. -/
theorem exists_header_of_not_blocked {buf : Bytes}
    (hhead : buf.head? = some Kind.objectRequest.code) (hblocked : ¬ ObjectRequest.Blocked buf) :
    ∃ code size objectId count, size.toNat = IdSet.encodedLength count ∧
      buf.take 12 <+:
        Word.bytesOf [.u8 Kind.objectRequest.code, .u8 code, .u16 size, .u64 objectId] := by
  have hpadded : 12 ≤ (buf ++ List.replicate 12 0).length := by
    rw [List.length_append, List.length_replicate]
    omega
  have hfirst : ((buf ++ List.replicate 12 0).take 12).head? = some Kind.objectRequest.code := by
    obtain ⟨rest, rfl⟩ := List.head?_eq_some_iff.mp hhead
    rfl
  obtain ⟨code, size, objectId, hheader⟩ :=
    ObjectRequest.exists_fields_of_length (List.length_take_of_le hpadded) hfirst
  have hlow : (buf ++ List.replicate 12 0)[2]? = some (UInt8.ofNat size.toNat) := by
    rw [← List.getElem?_take_of_lt (by decide : 2 < 12), hheader]
    rfl
  have hmod : size.toNat % 8 = 0 := by
    rw [← toNat_low_mod]
    apply Classical.byContradiction
    intro hmod
    by_cases hinside : 2 < buf.length
    · rw [List.getElem?_append_left hinside] at hlow
      exact hblocked (.size _ hlow hmod)
    · rw [List.getElem?_append_right (by omega), List.getElem?_replicate_of_lt (by omega),
        Option.some_inj] at hlow
      rw [← hlow] at hmod
      exact hmod rfl
  refine ⟨code, size, objectId, size.toNat / 8, ?_, ?_⟩
  · rw [IdSet.encodedLength]
    omega
  · rw [← hheader]
    exact (List.prefix_append buf _).take 12

/-- The ids of an object request that nothing blocks, whole and cut, can be completed to as many as
its size says. -/
theorem exists_ids_of_not_blocked {buf : Bytes} {count : Nat}
    (hblocked : ¬ ObjectRequest.Blocked buf) (hcount : count ≤ UInt64.size)
    (hcut : 12 ≤ buf.length → buf.length < 12 + IdSet.encodedLength count) :
    ∃ ids : List UInt64, ids.length = count ∧ ids.Nodup ∧
      buf.drop 12 <+: ids.flatMap Bytes.ofUInt64 := by
  by_cases hshort : (buf.drop 12).length < IdSet.encodedLength count
  · have hnodup : (IdSet.whole (buf.drop 12)).Nodup :=
      Classical.byContradiction fun hrepeated ↦ hblocked (.repeated hrepeated)
    have hnew : ∃ id, IdSet.part (buf.drop 12) <+: Bytes.ofUInt64 id ∧
        id ∉ IdSet.whole (buf.drop 12) := by
      apply Classical.byContradiction
      intro hnone
      refine hblocked (.exhausted fun id hpart ↦ Classical.byContradiction fun hmem ↦ ?_)
      exact hnone ⟨id, hpart, hmem⟩
    obtain ⟨id, hpart, hmem⟩ := hnew
    exact IdSet.exists_ids_of_cut hshort hcount hnodup hpart hmem
  · -- The header is cut, and no ids belong to it.
    rw [List.length_drop] at hshort
    have hnone : buf.drop 12 = [] := List.drop_eq_nil_of_le (by omega)
    have hzero : count = 0 := by
      rw [IdSet.encodedLength] at hshort hcut
      omega
    rw [hnone]
    exact ⟨[], hzero.symm, List.nodup_nil, List.nil_prefix⟩

/-- Any front of a header and of distinct ids, as many as the size says, can be completed. -/
theorem completable_of_prefix {code : UInt8} {size : UInt16} {objectId : UInt64}
    {ids : List UInt64} {buf : Bytes} (hsize : size.toNat = IdSet.encodedLength ids.length)
    (hids : ids.Nodup)
    (hfront : buf <+:
      Word.bytesOf [.u8 Kind.objectRequest.code, .u8 code, .u16 size, .u64 objectId] ++
        ids.flatMap Bytes.ofUInt64) : Completable buf := by
  have hperm : ids.Perm (IdSet.ofList ids).ids := (IdSet.ofList_eq_iff hids).mp rfl
  have hbytes : size.toNat = (ids.flatMap Bytes.ofUInt64).length := by
    rw [hsize, IdSet.length_flatMap_ofUInt64]
  have hfits : IdSet.encodedLength (IdSet.ofList ids).size ≤ maxPayloadLength := by
    rw [IdSet.size, ← hperm.length_eq, ← IdSet.length_flatMap_ofUInt64]
    exact Payload.length_le_of_size hbytes
  let request : ObjectRequest := ⟨.ofCode code, objectId, .ofList ids, hfits⟩
  exact completable_of_wireForm
    ⟨_, _, .objectRequest request code size ids rfl hperm hbytes, rfl⟩ hfront

/-- An object request that nothing blocks is completed by zeros for what is missing of its header,
and then by ids that have not come before. -/
theorem completable_of_not_blocked {code : UInt8} {bs : Bytes} {reason : ProtocolError}
    (h : decode (code :: bs) = .error (.refused reason))
    (htruncation : reason.isTruncation = true) (hkind : Kind.ofCode code = .objectRequest)
    (hblocked : ¬ ObjectRequest.Blocked (code :: bs)) : Completable (code :: bs) := by
  have hlayout : (Kind.ofCode code).layout? = some ⟨12, .sized 2⟩ := by
    rw [hkind]
    rfl
  have hhead : (code :: bs).head? = some Kind.objectRequest.code := by
    rw [List.head?_cons, ← hkind, Kind.code_ofCode hlayout]
  obtain ⟨action, size, objectId, count, hsize, hheader⟩ :=
    exists_header_of_not_blocked hhead hblocked
  have hcut : 12 ≤ (code :: bs).length →
      (code :: bs).length < 12 + IdSet.encodedLength count := by
    intro hlong
    have hfields := hheader.eq_of_length (List.length_take_of_le hlong)
    obtain ⟨-, -, hat, -⟩ := Word.eq_bytesOf_iff.mp hfields
    rw [← hsize]
    exact length_lt_of_truncation h htruncation hlayout (map_eq_ok_iff.mpr ⟨size, hat, rfl⟩)
  have hcount : count ≤ UInt64.size := by
    have hlt := size.toNat_lt
    rw [hsize, IdSet.encodedLength] at hlt
    rw [UInt64.size]
    omega
  obtain ⟨ids, rfl, hnodup, hbody⟩ := exists_ids_of_not_blocked hblocked hcount hcut
  exact completable_of_prefix hsize hnodup (prefix_append_of_take_of_drop hheader hbody)

/-- What becomes of a byte string that is refused for want of bytes: there are bytes that can follow
so that a datagram is read, unless it is the front of an object request that is blocked. -/
theorem completable_iff_of_truncation {buf : Bytes} {fault : Fault}
    (h : decode buf = .error fault) (htruncation : fault.isTruncation = true) :
    Completable buf ↔
      ¬ (Kind.peek? buf = some .objectRequest ∧ ObjectRequest.Blocked buf) := by
  cases fault with
  | outOfBounds access => cases htruncation
  | refused reason =>
    cases buf with
    | nil =>
      constructor
      · rintro - ⟨hpeek, -⟩
        cases hpeek
      · intro _
        exact ⟨[Kind.connect.code], .connect, 1, rfl⟩
    | cons code bs =>
      cases hlayout : (Kind.ofCode code).layout? with
      | none =>
        rw [decode_of_no_layout hlayout] at h
        cases h
        cases htruncation
      | some layout =>
        have hpeek : Kind.peek? (code :: bs) = some (Kind.ofCode code) := rfl
        rw [hpeek, Option.some_inj]
        by_cases hkind : Kind.ofCode code = .objectRequest
        · constructor
          · rintro hcompletable ⟨-, hblocked⟩
            exact not_blocked_of_completable h htruncation hkind hcompletable hblocked
          · intro hfree
            exact completable_of_not_blocked h htruncation hkind fun hblocked ↦
              hfree ⟨hkind, hblocked⟩
        · constructor
          · rintro - ⟨hobject, -⟩
            exact hkind hobject
          · intro _
            exact completable_of_kind_ne hlayout hkind bs

/-- A request for two ids that is cut in the second is completed, although the second starts as the
first does. -/
theorem completable_iff_of_truncation_second_id :
    decode (Word.bytesOf [.u8 Kind.objectRequest.code, .u8 1, .u16 16, .u64 9, .u64 5, .u8 5]) =
        .error (.refused (.lengthMismatch .objectRequest 16 9)) ∧
      Completable
        (Word.bytesOf [.u8 Kind.objectRequest.code, .u8 1, .u16 16, .u64 9, .u64 5, .u8 5]) := by
  have hread : decode
      (Word.bytesOf [.u8 Kind.objectRequest.code, .u8 1, .u16 16, .u64 9, .u64 5, .u8 5]) =
        .error (.refused (.lengthMismatch .objectRequest 16 9)) := rfl
  refine ⟨hread, (completable_iff_of_truncation hread rfl).mpr ?_⟩
  rintro ⟨-, ⟨low, hlow, hmod⟩ | hrepeated | hexhausted⟩
  · cases hlow
    exact hmod rfl
  · exact hrepeated (by decide)
  · -- The second id may still become 261, of which the low byte is 5.
    exact absurd (hexhausted 261 (by decide)) (by decide)

/-- A request of which the size is no whole number of ids is refused for want of bytes as long as
its body is cut, but no bytes complete it. -/
theorem not_completable_of_size_five :
    decode (Word.bytesOf [.u8 Kind.objectRequest.code, .u8 1, .u16 5, .u64 0]) =
        .error (.refused (.lengthMismatch .objectRequest 5 0)) ∧
      (ProtocolError.lengthMismatch .objectRequest 5 0).isTruncation = true ∧
      ¬ Completable (Word.bytesOf [.u8 Kind.objectRequest.code, .u8 1, .u16 5, .u64 0]) := by
  have hread : decode (Word.bytesOf [.u8 Kind.objectRequest.code, .u8 1, .u16 5, .u64 0]) =
      .error (.refused (.lengthMismatch .objectRequest 5 0)) := rfl
  refine ⟨hread, rfl, fun hcompletable ↦ ?_⟩
  exact not_blocked_of_completable hread rfl rfl hcompletable (.size 5 rfl (by decide))

end Datagram

end TopicWire
