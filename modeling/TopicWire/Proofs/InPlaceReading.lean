import TopicWire.Proofs.FrameOutcome
import TopicWire.Proofs.ReaderRun

/-!
# Reading in place

A datagram can be read without cutting a frame off first: each field at its offset in the whole byte
string, in wire order, and the body only after the bytes after the header have been counted. Here
every read, every cut and every count is an access that reports what does not fit, and the ids of a
set are taken one by one (`IdSet.collect`). What is read in place is what is read from the frame
(`InPlace.decodeAs_eq`), and neither ever reports an access out of bounds.
-/

set_option autoImplicit false
set_option relaxedAutoImplicit false

namespace TopicWire

/-! ### Ids taken one by one -/

namespace IdSet

/-- Takes `left` ids in place, from the one numbered `index` on, and adds each to those seen before.
Stops at the first that is among them. -/
def collect (bs : Bytes) : Nat → Nat → Std.TreeSet UInt64 → Except Fault (Std.TreeSet UInt64)
  | 0, _, seen => return seen
  | left + 1, index, seen => do
    let id ← (Field.u64At bs (8 * index)).mapError .outOfBounds
    if id ∈ seen then throw (.refused (.duplicateId id))
    else collect bs left (index + 1) (seen.insert id)

/-- The ids of a tree as a set. -/
def ofTree (ids : Std.TreeSet UInt64) : IdSet where
  ids := ids.toList
  ascending := Std.TreeSet.ordered_toList.imp Std.compare_eq_lt.1

/-- The set of exactly `count` ids, taken in place. -/
def decodeInPlace (bs : Bytes) (count : Nat) : Except Fault IdSet :=
  if bs.length = encodedLength count then (collect bs count 0 ∅).map ofTree
  else throw (.refused (.malformedIdSet bs.length))

/-- The id in place is the next of the words. -/
theorem words_drop_eq_cons {bs : Bytes} {index left : Nat}
    (h : bs.length = 8 * (index + (left + 1))) :
    ∃ id, Field.u64At bs (8 * index) = .ok id ∧
      words (left + 1) (bs.drop (8 * index)) = id :: words left (bs.drop (8 * (index + 1))) := by
  have hfits : 8 * index + 8 ≤ bs.length := by omega
  refine ⟨Bytes.toUInt64 ((bs.drop (8 * index)).take 8), ?_, ?_⟩
  · unfold Field.u64At Field.bytesAt
    rw [if_pos hfits]
    rfl
  · rw [words, List.drop_drop]
    rfl

/-- The ids that were added to a tree are in it, with those that were there. -/
theorem mem_foldl_insert {x : UInt64} {ids : List UInt64} {seen : Std.TreeSet UInt64} :
    x ∈ ids.foldl Std.TreeSet.insert seen ↔ x ∈ seen ∨ x ∈ ids := by
  induction ids generalizing seen with
  | nil => simp
  | cons id ids ih =>
    rw [List.foldl_cons, ih, Std.TreeSet.mem_insert, Std.LawfulEqCmp.compare_eq_iff_eq,
      List.mem_cons, or_assoc, or_left_comm, eq_comm]

/-- Ids that are added to a tree one after the other make the set of their list. -/
theorem ofTree_foldl_insert (ids : List UInt64) :
    ofTree (ids.foldl Std.TreeSet.insert ∅) = ofList ids := by
  apply eq_of_perm
  refine (List.perm_ext_iff_of_nodup (nodup_ids _) (nodup_ids _)).mpr fun x ↦ ?_
  show x ∈ (ids.foldl Std.TreeSet.insert ∅).toList ↔ x ∈ (ofList ids).ids
  rw [Std.TreeSet.mem_toList, mem_foldl_insert, mem_ids_ofList]
  simp

/-- Taking the ids that are left one by one comes to the first repeat among them, or adds them
all. -/
theorem collect_eq {bs : Bytes} {left index : Nat} (h : bs.length = 8 * (index + left))
    (seen : Std.TreeSet UInt64) :
    collect bs left index seen =
      match firstRepeat? seen (words left (bs.drop (8 * index))) with
      | some id => .error (.refused (.duplicateId id))
      | none => .ok ((words left (bs.drop (8 * index))).foldl Std.TreeSet.insert seen) := by
  induction left generalizing index seen with
  | zero => rfl
  | succ left ih =>
    obtain ⟨id, hid, hwords⟩ := words_drop_eq_cons h
    rw [collect, hid, hwords, firstRepeat?]
    show (if id ∈ seen then _ else collect bs left (index + 1) (seen.insert id)) = _
    by_cases hseen : id ∈ seen
    · rw [if_pos hseen, if_pos hseen]
      rfl
    · rw [if_neg hseen, if_neg hseen, ih (by omega)]
      rfl

/-- A set that is taken id by id is the set that is read at once. -/
theorem decodeInPlace_eq (bs : Bytes) (count : Nat) :
    decodeInPlace bs count = (decode bs count).mapError .refused := by
  unfold decodeInPlace decode
  split
  · next hlength =>
    rw [collect_eq (by rw [hlength, encodedLength, Nat.zero_add]), Nat.mul_zero, List.drop_zero]
    cases firstRepeat? ∅ (words count bs) with
    | some id => rfl
    | none =>
      show Except.ok (ofTree ((words count bs).foldl Std.TreeSet.insert ∅)) =
        (.ok (ofList (words count bs)) : Except Fault IdSet)
      rw [ofTree_foldl_insert]
  · rfl

end IdSet

namespace InPlace

/-! ### Fields, cuts and counts -/

/-- The byte at a position of the whole string. -/
def u8At (buf : Bytes) (position : Nat) : Except Fault UInt8 :=
  (Field.u8At buf position).mapError .outOfBounds

/-- The 16-bit word at a position of the whole string. -/
def u16At (buf : Bytes) (position : Nat) : Except Fault UInt16 :=
  (Field.u16At buf position).mapError .outOfBounds

/-- The 32-bit word at a position of the whole string. -/
def u32At (buf : Bytes) (position : Nat) : Except Fault UInt32 :=
  (Field.u32At buf position).mapError .outOfBounds

/-- The 64-bit word at a position of the whole string. -/
def u64At (buf : Bytes) (position : Nat) : Except Fault UInt64 :=
  (Field.u64At buf position).mapError .outOfBounds

/-- The bytes from one position up to another. -/
def cut (buf : Bytes) (start stop : Nat) : Except Fault Bytes :=
  (Field.subrange buf start stop).mapError .outOfBounds

/-- The number of bytes from a position on, which must not lie beyond the end. -/
def countFrom (buf : Bytes) (start : Nat) : Except Fault Nat :=
  (cut buf start buf.length).map List.length

/-- The byte of the kind comes first, and there are bytes enough for the header. -/
def checkHeader (kind : Kind) (headerLength : Nat) (buf : Bytes) : Except Fault Unit :=
  match buf with
  | [] => throw (.refused .empty)
  | code :: _ =>
    if code ≠ kind.code then throw (.refused (.unexpectedType kind code))
    else if buf.length < headerLength then
      throw (.refused (.truncated kind headerLength buf.length))
    else return ()

/-- As many bytes from a position on as a size field declares, if there are as many. -/
def sizedBody (kind : Kind) (buf : Bytes) (start : Nat) (size : UInt16) : Except Fault Bytes := do
  let available ← countFrom buf start
  if available < size.toNat then throw (.refused (.lengthMismatch kind size.toNat available))
  else cut buf start (start + size.toNat)

/-- A body of declared size as a payload. -/
def payload (kind : Kind) (buf : Bytes) (start : Nat) (size : UInt16) : Except Fault Payload := do
  let body ← sizedBody kind buf start size
  (Payload.ofBytes body).mapError .refused

/-! ### Datagrams -/

open Datagram in
/-- The datagram of a kind after its header check, and the number of bytes it occupies. The fields
are read in wire order, and before the body is known to be there. -/
def fields (kind : Kind) (start : Nat) (buf : Bytes) : Except Fault (Datagram × Nat) :=
  match kind with
  | .connect => return (connect, start)
  | .connectAck => do
    let clientId ← u64At buf 1
    let heartbeatPeriod ← u16At buf 9
    return (connectAck ⟨clientId, heartbeatPeriod⟩, start)
  | .connectNack => do
    let size ← u16At buf 1
    let message ← payload kind buf start size
    return (connectNack ⟨message⟩, start + size.toNat)
  | .shutdown => do
    let code ← u8At buf 1
    return (shutdown ⟨EndReason.ofCode code⟩, start)
  | .serverStatus => return (serverStatus, start)
  | .serverStatusAck => do
    let connectedClients ← u64At buf 1
    return (serverStatusAck ⟨connectedClients⟩, start)
  | .heartbeat => return (heartbeat, start)
  | .heartbeatRequest => return (heartbeatRequest, start)
  | .ping => do
    let pingId ← u8At buf 1
    return (ping ⟨pingId⟩, start)
  | .pong => do
    let pingId ← u8At buf 1
    return (pong ⟨pingId⟩, start)
  | .topicRequest => do
    let code ← u8At buf 1
    let topicId ← u64At buf 2
    return (topicRequest ⟨TopicAction.ofCode code, topicId⟩, start)
  | .topicRequestAck => do
    let code ← u8At buf 1
    let topicId ← u64At buf 2
    return (topicRequestAck ⟨TopicResponse.ofCode code, topicId⟩, start)
  | .topicRequestNack => do
    let code ← u8At buf 1
    let size ← u16At buf 2
    let message ← payload kind buf start size
    return (topicRequestNack ⟨TopicResponse.ofCode code, message⟩, start + size.toNat)
  | .objectRequest => do
    let code ← u8At buf 1
    let size ← u16At buf 2
    let objectId ← u64At buf 4
    let body ← sizedBody kind buf start size
    let count ← (IdSet.countForSize size.toNat).mapError .refused
    let topicIds ← IdSet.decodeInPlace body count
    let request ← (ObjectRequest.ofTopics (ObjectAction.ofCode code) objectId topicIds).mapError
      .refused
    return (objectRequest request, start + size.toNat)
  | .objectRequestAck => do
    let flag ← u8At buf 1
    let objectId ← u64At buf 2
    if Flag.has flag .finalIdPresent then
      if buf.length < start + 8 then
        throw (.refused (.truncated kind (start + 8) buf.length))
      else
        let finalId ← u64At buf start
        return (objectRequestAck (.ofFlag flag objectId (some finalId)), start + 8)
    else return (objectRequestAck (.ofFlag flag objectId none), start)
  | .objectRequestNack => do
    let flag ← u8At buf 1
    let size ← u16At buf 2
    let objectId ← u64At buf 4
    let message ← payload kind buf start size
    return (objectRequestNack ⟨flag, objectId, message⟩, start + size.toNat)
  | .data => do
    let size ← u16At buf 1
    let sequence ← u32At buf 3
    let topicId ← u64At buf 7
    let message ← payload kind buf start size
    return (data ⟨sequence, topicId, message⟩, start + size.toNat)
  | .openStream | .unknown => throw (.refused (.unsupportedType kind))

/-- Reads a datagram of one kind in place. -/
def decodeAs (kind : Kind) (buf : Bytes) : Except Fault (Datagram × Nat) :=
  match kind.layout? with
  | none => if buf = [] then throw (.refused .empty) else throw (.refused (.unsupportedType kind))
  | some layout => do
    checkHeader kind layout.headerLength buf
    fields kind layout.headerLength buf

/-! ### Access after the header check -/

section Access

variable {buf : Bytes} {length position : Nat}

/-- A cut inside the string is the bytes between its ends. -/
theorem cut_eq {start stop : Nat} (hstart : start ≤ stop) (hstop : stop ≤ buf.length) :
    cut buf start stop = .ok ((buf.drop start).take (stop - start)) := by
  unfold cut Field.subrange
  rw [if_pos ⟨hstart, hstop⟩]
  rfl

theorem countFrom_eq {start : Nat} (h : start ≤ buf.length) :
    countFrom buf start = .ok (buf.length - start) := by
  unfold countFrom
  rw [cut_eq h (Nat.le_refl _)]
  show Except.ok ((buf.drop start).take (buf.length - start)).length = _
  rw [List.length_take, List.length_drop, Nat.min_self]

/-- A field of the header is the same in the header and in the whole string. -/
theorem bytesAt_take {width : Nat} (hfield : position + width ≤ length)
    (hlength : length ≤ buf.length) :
    Field.bytesAt width (buf.take length) position = Field.bytesAt width buf position := by
  have htake : (buf.take length).length = length := List.length_take_of_le hlength
  unfold Field.bytesAt
  rw [if_pos (by omega), if_pos (by omega), List.drop_take, List.take_take,
    Nat.min_eq_left (by omega)]

theorem u8At_take (body : Bytes) (hfield : position < length) (hlength : length ≤ buf.length) :
    Frame.u8At ⟨buf.take length, body⟩ position = u8At buf position := by
  unfold Frame.u8At u8At Field.u8At
  rw [List.getElem?_take_of_lt hfield, List.getElem?_eq_getElem (by omega)]

theorem u16At_take (body : Bytes) (hfield : position + 2 ≤ length) (hlength : length ≤ buf.length) :
    Frame.u16At ⟨buf.take length, body⟩ position = u16At buf position := by
  unfold Frame.u16At u16At Field.u16At
  rw [bytesAt_take hfield hlength]

theorem u32At_take (body : Bytes) (hfield : position + 4 ≤ length) (hlength : length ≤ buf.length) :
    Frame.u32At ⟨buf.take length, body⟩ position = u32At buf position := by
  unfold Frame.u32At u32At Field.u32At
  rw [bytesAt_take hfield hlength]

theorem u64At_take (body : Bytes) (hfield : position + 8 ≤ length) (hlength : length ≤ buf.length) :
    Frame.u64At ⟨buf.take length, body⟩ position = u64At buf position := by
  unfold Frame.u64At u64At Field.u64At
  rw [bytesAt_take hfield hlength]

/-! No access inside the string is refused. -/

theorem exists_u8At (h : position < buf.length) : ∃ value, u8At buf position = .ok value := by
  obtain ⟨value, hvalue⟩ := Field.exists_u8At h
  exact ⟨value, mapError_eq_ok_iff.mpr hvalue⟩

theorem exists_u16At (h : position + 2 ≤ buf.length) :
    ∃ value, u16At buf position = .ok value := by
  obtain ⟨value, hvalue⟩ := Field.exists_u16At h
  exact ⟨value, mapError_eq_ok_iff.mpr hvalue⟩

theorem exists_u32At (h : position + 4 ≤ buf.length) :
    ∃ value, u32At buf position = .ok value := by
  obtain ⟨value, hvalue⟩ := Field.exists_u32At h
  exact ⟨value, mapError_eq_ok_iff.mpr hvalue⟩

theorem exists_u64At (h : position + 8 ≤ buf.length) :
    ∃ value, u64At buf position = .ok value := by
  obtain ⟨value, hvalue⟩ := Field.exists_u64At h
  exact ⟨value, mapError_eq_ok_iff.mpr hvalue⟩

/-- A sized body is cut out, or counted to be short: neither reaches beyond the string. -/
theorem sizedBody_eq {kind : Kind} {start : Nat} {size : UInt16} (h : start ≤ buf.length) :
    sizedBody kind buf start size =
      if buf.length - start < size.toNat then
        .error (.refused (.lengthMismatch kind size.toNat (buf.length - start)))
      else .ok ((buf.drop start).take size.toNat) := by
  unfold sizedBody
  rw [countFrom_eq h, ok_bind]
  split
  · rfl
  · next hlong =>
    rw [cut_eq (Nat.le_add_right _ _) (by omega), Nat.add_sub_cancel_left]

end Access

/-! ### The frame and what is read in place -/

section Frames

variable {kind : Kind} {buf : Bytes} {headerLength position : Nat}

theorem length_take_body (body : Bytes) (h : headerLength ≤ buf.length) :
    Frame.length ⟨buf.take headerLength, body⟩ = headerLength + body.length := by
  rw [Frame.length, List.length_take_of_le h]

theorem read_fixed (h : headerLength ≤ buf.length) :
    Frame.read kind ⟨headerLength, .fixed⟩ buf = .ok ⟨buf.take headerLength, []⟩ := by
  have hbody : Layout.bodyLength ⟨headerLength, .fixed⟩ (buf.take headerLength) = .ok 0 := rfl
  exact Frame.read_of_complete hbody h

/-- In a layout with a size field, the body and the frame are refused together, or the body is
the frame's. -/
theorem sizedBody_and_read (kind : Kind) (hfield : position + 2 ≤ headerLength)
    (h : headerLength ≤ buf.length) :
    ∃ size, u16At buf position = .ok size ∧
      ((∃ fault, sizedBody kind buf headerLength size = .error fault ∧
          Frame.read kind ⟨headerLength, .sized position⟩ buf = .error fault) ∨
        ∃ body, sizedBody kind buf headerLength size = .ok body ∧
          Frame.read kind ⟨headerLength, .sized position⟩ buf =
            .ok ⟨buf.take headerLength, body⟩ ∧
          body.length = size.toNat) := by
  obtain ⟨size, hsize⟩ := exists_u16At (Nat.le_trans hfield h)
  have hheader := u16At_take [] hfield h
  rw [hsize] at hheader
  have hdeclared : Layout.bodyLength ⟨headerLength, .sized position⟩ (buf.take headerLength) =
      .ok size.toNat :=
    map_eq_ok_iff.mpr ⟨size, mapError_eq_ok_iff.mp hheader, rfl⟩
  refine ⟨size, hsize, ?_⟩
  rw [sizedBody_eq h]
  by_cases hshort : buf.length - headerLength < size.toNat
  · have hcut : buf.length < headerLength + size.toNat := by omega
    rw [if_pos hshort]
    exact .inl ⟨_, rfl, Frame.read_of_short_body h hdeclared hcut⟩
  · have hwhole : headerLength + size.toNat ≤ buf.length := by omega
    rw [if_neg hshort]
    refine .inr ⟨_, rfl, Frame.read_of_complete hdeclared hwhole, ?_⟩
    rw [List.length_take, List.length_drop]
    omega

/-- An acknowledgement has no body unless its flag says so, and then a body of eight bytes. -/
theorem read_flagged {flag : Flag} (kind : Kind) (hfield : position < headerLength)
    (h : headerLength ≤ buf.length) (hflag : u8At buf position = .ok flag) :
    Frame.read kind ⟨headerLength, .flagged position⟩ buf =
      if Flag.has flag .finalIdPresent then
        if buf.length < headerLength + 8 then
          .error (.refused (.truncated kind (headerLength + 8) buf.length))
        else .ok ⟨buf.take headerLength, (buf.drop headerLength).take 8⟩
      else .ok ⟨buf.take headerLength, []⟩ := by
  have hheader := u8At_take [] hfield h
  rw [hflag] at hheader
  have hdeclared : Layout.bodyLength ⟨headerLength, .flagged position⟩ (buf.take headerLength) =
      .ok (if Flag.has flag .finalIdPresent then 8 else 0) :=
    map_eq_ok_iff.mpr ⟨flag, mapError_eq_ok_iff.mp hheader, rfl⟩
  split at hdeclared
  · next hhas =>
    rw [if_pos hhas]
    by_cases hshort : buf.length < headerLength + 8
    · have havailable : headerLength + (buf.length - headerLength) = buf.length := by omega
      rw [if_pos hshort, Frame.read_of_short_body h hdeclared hshort, Layout.shortage, havailable]
    · rw [if_neg hshort]
      exact Frame.read_of_complete hdeclared (Nat.not_lt.mp hshort)
  · next hhas =>
    rw [if_neg hhas]
    exact Frame.read_of_complete hdeclared h

/-- The final id of an acknowledgement is the word after the header. -/
theorem bodyId_eq (h : headerLength + 8 ≤ buf.length) :
    Frame.bodyId ⟨buf.take headerLength, (buf.drop headerLength).take 8⟩ =
      u64At buf headerLength := by
  have hlength : ((buf.drop headerLength).take 8).length = 8 := by
    rw [List.length_take, List.length_drop]
    omega
  unfold Frame.bodyId u64At Field.u64At Field.bytesAt
  rw [if_pos (Nat.le_of_eq hlength.symm), if_pos h, List.drop_zero, List.take_take, Nat.min_self]

end Frames

/-- After the header check, the fields read in place are those of the frame. -/
theorem fields_eq {kind : Kind} {layout : Layout} {buf : Bytes}
    (hlayout : kind.layout? = some layout) (h : layout.headerLength ≤ buf.length) :
    fields kind layout.headerLength buf = (do
      let frame ← Frame.read kind layout buf
      let datagram ← Datagram.ofFrame kind frame
      return (datagram, frame.length)) := by
  cases kind with
  | openStream | unknown => cases hlayout
  | connect | connectAck | shutdown | serverStatus | serverStatusAck | heartbeat
  | heartbeatRequest | ping | pong | topicRequest | topicRequestAck =>
    cases hlayout
    simp (disch := first | decide | exact h) only [fields, Datagram.ofFrame, read_fixed h,
      length_take_body, u8At_take, u16At_take, u64At_take, ok_bind, bind_assoc, pure_bind]
    rfl
  | connectNack =>
    cases hlayout
    obtain ⟨size, hsize, ⟨fault, hbody, hread⟩ | ⟨body, hbody, hread, hlength⟩⟩ :=
      sizedBody_and_read .connectNack (by decide : 1 + 2 ≤ 3) h
    · simp only [fields, payload, hsize, hbody, hread, ok_bind, error_bind]
    · simp only [fields, payload, Datagram.ofFrame, Frame.payload, hsize, hbody, hread,
        length_take_body body h, hlength, ok_bind, bind_assoc, pure_bind]
  | topicRequestNack =>
    cases hlayout
    obtain ⟨code, hcode⟩ := exists_u8At (Nat.lt_of_lt_of_le (by decide : 1 < 4) h)
    obtain ⟨size, hsize, ⟨fault, hbody, hread⟩ | ⟨body, hbody, hread, hlength⟩⟩ :=
      sizedBody_and_read .topicRequestNack (by decide : 2 + 2 ≤ 4) h
    · simp only [fields, payload, hcode, hsize, hbody, hread, ok_bind, error_bind]
    · simp only [fields, payload, Datagram.ofFrame, Frame.payload, hsize, hbody, hread,
        u8At_take body (by decide : 1 < 4) h, length_take_body body h, hlength, ok_bind,
        bind_assoc, pure_bind]
  | objectRequest =>
    cases hlayout
    obtain ⟨code, hcode⟩ := exists_u8At (Nat.lt_of_lt_of_le (by decide : 1 < 12) h)
    obtain ⟨objectId, hobject⟩ := exists_u64At (Nat.le_trans (by decide : 4 + 8 ≤ 12) h)
    obtain ⟨size, hsize, ⟨fault, hbody, hread⟩ | ⟨body, hbody, hread, hlength⟩⟩ :=
      sizedBody_and_read .objectRequest (by decide : 2 + 2 ≤ 12) h
    · simp only [fields, hcode, hsize, hobject, hbody, hread, ok_bind, error_bind]
    · simp only [fields, Datagram.ofFrame, hsize, hbody, hread,
        u8At_take body (by decide : 1 < 12) h, u64At_take body (by decide : 4 + 8 ≤ 12) h,
        length_take_body body h, hlength, IdSet.decodeInPlace_eq, ok_bind, bind_assoc, pure_bind]
  | objectRequestAck =>
    cases hlayout
    obtain ⟨flag, hflag⟩ := exists_u8At (Nat.lt_of_lt_of_le (by decide : 1 < 10) h)
    obtain ⟨objectId, hobject⟩ := exists_u64At (Nat.le_trans (by decide : 2 + 8 ≤ 10) h)
    rw [read_flagged .objectRequestAck (by decide : 1 < 10) h hflag]
    by_cases hhas : Flag.has flag .finalIdPresent
    · by_cases hshort : buf.length < 10 + 8
      · simp only [fields, hflag, hobject, ok_bind, if_pos hhas, if_pos hshort, error_bind]
        rfl
      · have hlong : 10 + 8 ≤ buf.length := Nat.not_lt.mp hshort
        have hbody : ((buf.drop 10).take 8).length = 8 := by
          rw [List.length_take, List.length_drop]
          omega
        simp only [fields, Datagram.ofFrame, hflag, hobject, if_pos hhas, if_neg hshort,
          u8At_take _ (by decide : 1 < 10) h, u64At_take _ (by decide : 2 + 8 ≤ 10) h,
          bodyId_eq hlong, length_take_body _ h, hbody, ok_bind, bind_assoc, pure_bind]
    · simp only [fields, Datagram.ofFrame, hflag, hobject, if_neg hhas,
        u8At_take _ (by decide : 1 < 10) h, u64At_take _ (by decide : 2 + 8 ≤ 10) h,
        length_take_body _ h, ok_bind, pure_bind]
      rfl
  | objectRequestNack =>
    cases hlayout
    obtain ⟨flag, hflag⟩ := exists_u8At (Nat.lt_of_lt_of_le (by decide : 1 < 12) h)
    obtain ⟨objectId, hobject⟩ := exists_u64At (Nat.le_trans (by decide : 4 + 8 ≤ 12) h)
    obtain ⟨size, hsize, ⟨fault, hbody, hread⟩ | ⟨body, hbody, hread, hlength⟩⟩ :=
      sizedBody_and_read .objectRequestNack (by decide : 2 + 2 ≤ 12) h
    · simp only [fields, payload, hflag, hsize, hobject, hbody, hread, ok_bind, error_bind]
    · simp only [fields, payload, Datagram.ofFrame, Frame.payload, hsize, hbody, hread,
        u8At_take body (by decide : 1 < 12) h, u64At_take body (by decide : 4 + 8 ≤ 12) h,
        length_take_body body h, hlength, ok_bind, bind_assoc, pure_bind]
  | data =>
    cases hlayout
    obtain ⟨sequence, hsequence⟩ := exists_u32At (Nat.le_trans (by decide : 3 + 4 ≤ 15) h)
    obtain ⟨topicId, htopic⟩ := exists_u64At (Nat.le_trans (by decide : 7 + 8 ≤ 15) h)
    obtain ⟨size, hsize, ⟨fault, hbody, hread⟩ | ⟨body, hbody, hread, hlength⟩⟩ :=
      sizedBody_and_read .data (by decide : 1 + 2 ≤ 15) h
    · simp only [fields, payload, hsize, hsequence, htopic, hbody, hread, ok_bind, error_bind]
    · simp only [fields, payload, Datagram.ofFrame, Frame.payload, hsize, hbody, hread,
        u32At_take body (by decide : 3 + 4 ≤ 15) h, u64At_take body (by decide : 7 + 8 ≤ 15) h,
        length_take_body body h, hlength, ok_bind, bind_assoc, pure_bind]

/-! The three ways in which the header check can end. -/

section Check

variable {kind : Kind} {headerLength : Nat} {code : UInt8} {bs : Bytes}

theorem checkHeader_of_ne (h : code ≠ kind.code) :
    checkHeader kind headerLength (code :: bs) = .error (.refused (.unexpectedType kind code)) := by
  unfold checkHeader
  exact if_pos h

theorem checkHeader_of_short (h : code = kind.code) (hshort : (code :: bs).length < headerLength) :
    checkHeader kind headerLength (code :: bs) =
      .error (.refused (.truncated kind headerLength (code :: bs).length)) := by
  unfold checkHeader
  exact (if_neg (not_not_intro h)).trans (if_pos hshort)

theorem checkHeader_of_long (h : code = kind.code) (hlong : headerLength ≤ (code :: bs).length) :
    checkHeader kind headerLength (code :: bs) = .ok () := by
  unfold checkHeader
  exact (if_neg (not_not_intro h)).trans (if_neg (Nat.not_lt.mpr hlong))

end Check

/-- What is read in place is what is read from the frame: the same datagram and the same number of
bytes, or the same refusal. -/
theorem decodeAs_eq (kind : Kind) (buf : Bytes) :
    decodeAs kind buf = Datagram.decodeAs kind buf := by
  unfold decodeAs Datagram.decodeAs
  cases hlayout : kind.layout? with
  | none => cases buf <;> rfl
  | some layout =>
    cases buf with
    | nil => rfl
    | cons code bs =>
      show (do
        checkHeader kind layout.headerLength (code :: bs)
        fields kind layout.headerLength (code :: bs)) = _
      by_cases hcode : code = kind.code
      · simp only [if_pos hcode]
        by_cases hshort : (code :: bs).length < layout.headerLength
        · rw [checkHeader_of_short hcode hshort, Frame.read_of_short_header hshort]
          rfl
        · rw [checkHeader_of_long hcode (Nat.not_lt.mp hshort), ok_bind,
            fields_eq hlayout (Nat.not_lt.mp hshort)]
      · rw [checkHeader_of_ne hcode]
        simp only [if_neg hcode]
        rfl

/-! ### No access reaches beyond the string -/

/-- No input makes a decoder reach beyond it. On every byte string the decoder of each kind, whose
every read, cut and count in place is checked, ends in a result or a refusal, which is that of the
frame; so does the decoder that takes the kind from the first byte; and after however many attempts,
what a reader has in hand is a cut of its byte string from its position on. -/
theorem answered_within_bounds (buf : Bytes) :
    (∀ kind, decodeAs kind buf = Datagram.decodeAs kind buf ∧
        Answered (decodeAs kind buf)) ∧
      Answered (Datagram.decode buf) ∧
      ∀ attempts, cut buf (Reader.take attempts (Reader.ofBytes buf)).2.position buf.length =
        .ok (Reader.take attempts (Reader.ofBytes buf)).2.rest := by
  refine ⟨?_, Datagram.answered_decode buf, ?_⟩
  · intro kind
    have h := decodeAs_eq kind buf
    refine ⟨h, ?_⟩
    rw [h]
    exact Datagram.answered_decodeAs kind buf
  · intro attempts
    obtain ⟨hposition, hrest⟩ := (Reader.within_ofBytes buf).take attempts
    rw [cut_eq hposition (Nat.le_refl _), hrest,
      List.take_of_length_le (Nat.le_of_eq List.length_drop)]

end InPlace

end TopicWire
