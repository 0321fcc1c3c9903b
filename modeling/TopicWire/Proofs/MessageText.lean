import TopicWire.Proofs.DecodeGrammar

/-!
# Messages survive the wire

A message is text, written as UTF-8 and read with U+FFFD in place of what is ill-formed. The reader
takes a form apart by its first byte and the range of the next one. `Opens` says which byte opens
the form of a number and how many bytes follow, `trailing` what they are; what is read of them is
what they say (`Utf8.opens_of_fits`, `Utf8.continuation_eq_some_iff`), so a front is a character
exactly if the byte string starts with its form (`Utf8.front_eq_some_iff`). So a byte string falls
into characters exactly if it is made of their forms (`Utf8.pieces_eq_map_some_iff`), and is valid
UTF-8 exactly if no part of it is ill-formed (`Utf8.isValidUTF8_iff`). With the wire as exact as it
is for all bytes, what comes back of a message is the text that was sent
(`Datagram.messages_survive`).
-/

set_option autoImplicit false
set_option relaxedAutoImplicit false

namespace TopicWire

namespace Text.Utf8

/-! ### The form of a number -/

/-- The last bytes of the form of a number, so many of them, each with six bits of it. -/
def trailing : Nat → Nat → Bytes
  | 0, _ => []
  | count + 1, n => UInt8.ofNat (n >>> (6 * count) % 64 + 0x80) :: trailing count n

/-- Whether the first of the last bytes of the form of a number, if there is one, is in a closed
range. -/
def NextWithin (low high : UInt8) (n : Nat) : Nat → Prop
  | 0 => True
  | count + 1 =>
    low.toNat ≤ n >>> (6 * count) % 64 + 0x80 ∧ n >>> (6 * count) % 64 + 0x80 ≤ high.toNat

/-- Whether a reading of a first byte, with the byte after it, is one of the form of a number. -/
def Lead.Fits (lead : Lead) (n : Nat) : Prop :=
  n >>> (6 * lead.following) = lead.bits ∧ NextWithin lead.low lead.high n lead.following

/-- The first bytes of the forms of scalar values, with the number of bytes that follow. -/
inductive Opens (b : UInt8) (n : Nat) : Nat → Prop
  | alone (hb : b.toNat = n) (hn : n ≤ 0x7F) : Opens b n 0
  | one (hb : b.toNat = 0xC0 + n >>> 6) (hlow : 0x80 ≤ n) (hhigh : n ≤ 0x7FF) : Opens b n 1
  | two (hb : b.toNat = 0xE0 + n >>> 12) (hlow : 0x800 ≤ n) (hhigh : n ≤ 0xFFFF)
    (hsurrogate : n < 0xD800 ∨ 0xDFFF < n) : Opens b n 2
  | three (hb : b.toNat = 0xF0 + n >>> 18) (hlow : 0x10000 ≤ n) (hhigh : n ≤ 0x10FFFF) :
    Opens b n 3

variable {count bits n : Nat} {low high b : UInt8} {bs rest : Bytes} {lead : Lead} {c : Char}

theorem fits_iff :
    (Lead.mk bits count low high).Fits n ↔
      n >>> (6 * count) = bits ∧ NextWithin low high n count := Iff.rfl

theorem shiftRight_succ_mul (count n : Nat) : n >>> (6 * (count + 1)) = n >>> (6 * count) / 64 := by
  rw [Nat.mul_succ, Nat.shiftRight_add]
  omega

theorem toNat_next (n count : Nat) :
    (UInt8.ofNat (n >>> (6 * count) % 64 + 0x80)).toNat = n >>> (6 * count) % 64 + 0x80 := by
  rw [UInt8.toNat_ofNat']
  omega

/-- More bytes of a form are read exactly where they are the last bytes of the form of the number
that is answered, and what was read before them fits it. -/
theorem continuation_eq_some_iff (hlow : 0x80 ≤ low.toNat) (hhigh : high.toNat ≤ 0xBF) :
    continuation count bits low high bs = (some n, rest) ↔
      bs = trailing count n ++ rest ∧ (Lead.mk bits count low high).Fits n := by
  induction count generalizing bits low high bs with
  | zero =>
    simp only [continuation, trailing, fits_iff, NextWithin, Prod.mk.injEq, Option.some.injEq,
      List.nil_append, Nat.mul_zero, Nat.shiftRight_zero, and_true]
    constructor
    · rintro ⟨rfl, rfl⟩
      exact ⟨rfl, rfl⟩
    · rintro ⟨rfl, rfl⟩
      exact ⟨rfl, rfl⟩
  | succ count ih =>
    cases bs with
    | nil => simp [continuation, trailing]
    | cons b bs =>
      have hnext := toNat_next n count
      rw [continuation, trailing, fits_iff, NextWithin, shiftRight_succ_mul, List.cons_append,
        List.cons.injEq]
      split
      · next hb =>
        rw [UInt8.le_iff_toNat_le, UInt8.le_iff_toNat_le] at hb
        rw [ih (Nat.le_refl _) (Nat.le_refl _), fits_iff]
        have hall : NextWithin 0x80 0xBF n count := by
          cases count with
          | zero => trivial
          | succ count =>
            show 128 ≤ _ ∧ _ ≤ 191
            omega
        constructor
        · rintro ⟨hbs, hbits, -⟩
          refine ⟨⟨UInt8.toNat_inj.mp ?_, hbs⟩, ?_, ?_, ?_⟩ <;> omega
        · rintro ⟨⟨rfl, hbs⟩, hbits, -, -⟩
          refine ⟨hbs, ?_, hall⟩
          omega
      · next hb =>
        rw [UInt8.le_iff_toNat_le, UInt8.le_iff_toNat_le] at hb
        constructor
        · intro h
          cases h
        · rintro ⟨⟨rfl, -⟩, -, hwithin⟩
          rw [hnext] at hb
          exact absurd hwithin hb

/-- The first bytes that are read, by the number of bytes that follow. -/
theorem ofByte?_eq_some_iff :
    Lead.ofByte? b = some lead ↔
      (b.toNat < 0x80 ∧ lead = ⟨b.toNat, 0, 0x80, 0xBF⟩) ∨
      (0xC2 ≤ b.toNat ∧ b.toNat < 0xE0 ∧ lead = ⟨b.toNat - 0xC0, 1, 0x80, 0xBF⟩) ∨
      (0xE0 ≤ b.toNat ∧ b.toNat < 0xF0 ∧
        lead = ⟨b.toNat - 0xE0, 2, if b = 0xE0 then 0xA0 else 0x80,
          if b = 0xED then 0x9F else 0xBF⟩) ∨
      (0xF0 ≤ b.toNat ∧ b.toNat < 0xF5 ∧
        lead = ⟨b.toNat - 0xF0, 3, if b = 0xF0 then 0x90 else 0x80,
          if b = 0xF4 then 0x8F else 0xBF⟩) := by
  unfold Lead.ofByte?
  simp only [UInt8.lt_iff_toNat_lt, UInt8.reduceToNat]
  constructor
  · intro h
    split at h
    · next hb => exact .inl ⟨hb, (Option.some.inj h).symm⟩
    split at h
    · cases h
    split at h
    · exact .inr (.inl ⟨by omega, by omega, (Option.some.inj h).symm⟩)
    split at h
    · exact .inr (.inr (.inl ⟨by omega, by omega, (Option.some.inj h).symm⟩))
    split at h
    · exact .inr (.inr (.inr ⟨by omega, by omega, (Option.some.inj h).symm⟩))
    · cases h
  · rintro (⟨hb, rfl⟩ | ⟨hlow, hhigh, rfl⟩ | ⟨hlow, hhigh, rfl⟩ | ⟨hlow, hhigh, rfl⟩)
    · rw [if_pos hb]
    · rw [if_neg (by omega), if_neg (by omega), if_pos hhigh]
    · rw [if_neg (by omega), if_neg (by omega), if_neg (by omega), if_pos hhigh]
    · rw [if_neg (by omega), if_neg (by omega), if_neg (by omega), if_neg (by omega), if_pos hhigh]

/-- The range of the byte after a first byte lies in that of all later bytes. -/
theorem range_of_ofByte? (h : Lead.ofByte? b = some lead) :
    0x80 ≤ lead.low.toNat ∧ lead.high.toNat ≤ 0xBF := by
  rcases ofByte?_eq_some_iff.mp h with ⟨-, rfl⟩ | ⟨-, -, rfl⟩ | ⟨-, -, rfl⟩ | ⟨-, -, rfl⟩
  · exact ⟨Nat.le_refl _, Nat.le_refl _⟩
  · exact ⟨Nat.le_refl _, Nat.le_refl _⟩
  · constructor <;> dsimp only <;> split <;> decide
  · constructor <;> dsimp only <;> split <;> decide

/-- A first byte opens the forms of the numbers that its reading fits. -/
theorem opens_of_fits (h : Lead.ofByte? b = some lead) (hfits : lead.Fits n) :
    Opens b n lead.following := by
  obtain ⟨hbits, hnext⟩ := hfits
  rcases ofByte?_eq_some_iff.mp h with ⟨hb, rfl⟩ | ⟨hlow, hhigh, rfl⟩ | ⟨hlow, hhigh, rfl⟩ |
    ⟨hlow, hhigh, rfl⟩
  · have hn : n = b.toNat := hbits
    exact .alone hn.symm (by omega)
  · simp only at hbits
    exact .one (by omega) (by omega) (by omega)
  · simp only [NextWithin, ← UInt8.toNat_inj, UInt8.reduceToNat, Nat.reduceMul] at hbits hnext
    -- The range of the next byte stands in for the overlong forms and for the surrogates.
    have hlong : b.toNat = 0xE0 → 0x800 ≤ n := by
      intro hb
      rw [if_pos hb] at hnext
      simp only [UInt8.reduceToNat] at hnext
      omega
    have hsurrogate : b.toNat = 0xED → n < 0xD800 := by
      intro hb
      rw [if_pos hb] at hnext
      simp only [UInt8.reduceToNat] at hnext
      omega
    exact .two (by omega) (by omega) (by omega) (by omega)
  · simp only [NextWithin, ← UInt8.toNat_inj, UInt8.reduceToNat, Nat.reduceMul] at hbits hnext
    -- It stands in for what is above the last number, too.
    have hlong : b.toNat = 0xF0 → 0x10000 ≤ n := by
      intro hb
      rw [if_pos hb] at hnext
      simp only [UInt8.reduceToNat] at hnext
      omega
    have hlast : b.toNat = 0xF4 → n ≤ 0x10FFFF := by
      intro hb
      rw [if_pos hb] at hnext
      simp only [UInt8.reduceToNat] at hnext
      omega
    exact .three (by omega) (by omega) (by omega)

/-- What opens the form of a number is read, and its reading fits the number. -/
theorem Opens.exists_lead (h : Opens b n count) :
    ∃ lead, Lead.ofByte? b = some lead ∧ lead.following = count ∧ lead.Fits n := by
  cases h with
  | alone hb hn =>
    exact ⟨_, ofByte?_eq_some_iff.mpr (.inl ⟨by omega, rfl⟩), rfl, hb.symm, trivial⟩
  | one hb hlow hhigh =>
    refine ⟨_, ofByte?_eq_some_iff.mpr (.inr (.inl ⟨by omega, by omega, rfl⟩)), rfl, ?_⟩
    simp only [fits_iff, NextWithin, UInt8.reduceToNat]
    omega
  | two hb hlow hhigh hsurrogate =>
    refine ⟨_, ofByte?_eq_some_iff.mpr (.inr (.inr (.inl ⟨by omega, by omega, rfl⟩))), rfl, ?_⟩
    simp only [fits_iff, NextWithin, ← UInt8.toNat_inj, UInt8.reduceToNat, Nat.reduceMul]
    split <;> split <;> simp only [UInt8.reduceToNat] <;> omega
  | three hb hlow hhigh =>
    refine ⟨_, ofByte?_eq_some_iff.mpr (.inr (.inr (.inr ⟨by omega, by omega, rfl⟩))), rfl, ?_⟩
    simp only [fits_iff, NextWithin, ← UInt8.toNat_inj, UInt8.reduceToNat, Nat.reduceMul]
    split <;> split <;> simp only [UInt8.reduceToNat] <;> omega

theorem Opens.isValidChar (h : Opens b n count) : n.isValidChar := by
  cases h <;> simp only [Nat.isValidChar] <;> omega

/-- The form of a character is the byte that opens it and the last bytes. -/
theorem Opens.utf8EncodeChar_eq (h : Opens b c.toNat count) :
    String.utf8EncodeChar c = b :: trailing count c.toNat := by
  unfold String.utf8EncodeChar
  simp only [Char.toNat_val]
  generalize c.toNat = n at h ⊢
  cases h with
  | alone hb hn =>
    rw [if_pos hn, ← hb, UInt8.ofNat_toNat]
    rfl
  | one hb hlow hhigh =>
    rw [if_neg (by omega), if_pos hhigh]
    simp only [trailing, List.cons.injEq, ← UInt8.toNat_inj, UInt8.toNat_ofNat', and_true]
    omega
  | two hb hlow hhigh hsurrogate =>
    rw [if_neg (by omega), if_neg (by omega), if_pos hhigh]
    simp only [trailing, List.cons.injEq, ← UInt8.toNat_inj, UInt8.toNat_ofNat', and_true]
    omega
  | three hb hlow hhigh =>
    rw [if_neg (by omega), if_neg (by omega), if_neg (by omega)]
    simp only [trailing, List.cons.injEq, ← UInt8.toNat_inj, UInt8.toNat_ofNat', and_true]
    omega

theorem exists_opens (c : Char) : ∃ b count, Opens b c.toNat count := by
  have hvalid : c.toNat.isValidChar := c.valid
  rw [Nat.isValidChar] at hvalid
  generalize c.toNat = n at hvalid ⊢
  by_cases h0 : n ≤ 0x7F
  · exact ⟨UInt8.ofNat n, 0, .alone (by rw [UInt8.toNat_ofNat']; omega) h0⟩
  by_cases h1 : n ≤ 0x7FF
  · exact ⟨UInt8.ofNat (0xC0 + n >>> 6), 1,
      .one (by rw [UInt8.toNat_ofNat']; omega) (by omega) h1⟩
  by_cases h2 : n ≤ 0xFFFF
  · exact ⟨UInt8.ofNat (0xE0 + n >>> 12), 2,
      .two (by rw [UInt8.toNat_ofNat']; omega) (by omega) h2 (by omega)⟩
  · exact ⟨UInt8.ofNat (0xF0 + n >>> 18), 3,
      .three (by rw [UInt8.toNat_ofNat']; omega) (by omega) (by omega)⟩

/-- The character of a number that is the number of one. -/
theorem toNat_ofNat_of_isValidChar (h : n.isValidChar) : (Char.ofNat n).toNat = n := by
  rw [Char.ofNat, dif_pos h]
  rfl

/-- The front of a byte string is a character exactly if the byte string starts with its form. -/
theorem front_eq_some_iff :
    front b bs = (some c, rest) ↔ b :: bs = String.utf8EncodeChar c ++ rest := by
  constructor
  · intro h
    unfold front at h
    split at h
    · cases h
    · next lead hlead =>
      obtain ⟨hlow, hhigh⟩ := range_of_ofByte? hlead
      generalize hanswer : continuation _ _ _ _ bs = answer at h
      obtain ⟨number?, later⟩ := answer
      simp only [Prod.mk.injEq, Option.map_eq_some_iff] at h
      obtain ⟨⟨n, rfl, rfl⟩, rfl⟩ := h
      obtain ⟨rfl, hfits⟩ := (continuation_eq_some_iff hlow hhigh).mp hanswer
      have hopens := opens_of_fits hlead hfits
      have hn := toNat_ofNat_of_isValidChar hopens.isValidChar
      rw [Opens.utf8EncodeChar_eq (hn.symm ▸ hopens), hn]
      rfl
  · intro h
    obtain ⟨b', count, hopens⟩ := exists_opens c
    rw [hopens.utf8EncodeChar_eq, List.cons_append, List.cons.injEq] at h
    obtain ⟨rfl, hbs⟩ := h
    obtain ⟨lead, hlead, rfl, hfits⟩ := hopens.exists_lead
    obtain ⟨hlow, hhigh⟩ := range_of_ofByte? hlead
    have hanswer := (continuation_eq_some_iff hlow hhigh).mpr ⟨hbs, hfits⟩
    rw [front, hlead]
    simp only [hanswer, Option.map_some, Char.ofNat_toNat]

/-- The form of a character at the front is one piece. -/
@[simp] theorem pieces_utf8EncodeChar_append (c : Char) (bs : Bytes) :
    pieces (String.utf8EncodeChar c ++ bs) = some c :: pieces bs := by
  obtain ⟨b, count, hopens⟩ := exists_opens c
  have hform := hopens.utf8EncodeChar_eq
  have hfront : front b (trailing count c.toNat ++ bs) = (some c, bs) := by
    rw [front_eq_some_iff, hform, List.cons_append]
  rw [hform, List.cons_append, pieces, hfront]

/-- A byte string falls into characters exactly if it is made of their forms. -/
theorem pieces_eq_map_some_iff {cs : List Char} :
    pieces bs = cs.map some ↔ bs = cs.flatMap String.utf8EncodeChar := by
  constructor
  · intro h
    induction cs generalizing bs with
    | nil =>
      cases bs with
      | nil => rfl
      | cons b bs => simp [pieces] at h
    | cons c cs ih =>
      cases bs with
      | nil => simp [pieces] at h
      | cons b bs =>
        rw [pieces, List.map_cons, List.cons.injEq] at h
        rw [List.flatMap_cons, ← ih h.2]
        exact front_eq_some_iff.mp (Prod.ext h.1 rfl)
  · rintro rfl
    induction cs with
    | nil => simp [pieces]
    | cons c cs ih => rw [List.flatMap_cons, pieces_utf8EncodeChar_append, ih, List.map_cons]

/-- The bytes of a text fall into its characters. -/
@[simp] theorem pieces_encode (text : String) : pieces (encode text) = text.toList.map some :=
  pieces_eq_map_some_iff.mpr rfl

/-- What is written of a text is read as the text. -/
@[simp] theorem decodeLossy_encode (text : String) : decodeLossy (encode text) = text := by
  have hgetD : ((fun piece : Option Char ↦ piece.getD '\uFFFD') ∘ some) = id := rfl
  rw [decodeLossy, pieces_encode, List.map_map, hgetD, List.map_id, String.ofList_toList]

/-- The bytes of a text are those that it is kept in. -/
theorem toByteArray_encode (text : String) : (encode text).toByteArray = text.toUTF8 :=
  String.utf8Encode_toList

/-- The number of bytes of a text. -/
@[simp] theorem length_encode (text : String) : (encode text).length = text.utf8ByteSize := by
  rw [← List.size_toByteArray, toByteArray_encode]
  rfl

/-- Where no part is ill-formed, a byte string is made of the forms of its pieces. -/
theorem exists_pieces_eq_map_some (h : none ∉ pieces bs) :
    ∃ cs : List Char, pieces bs = cs.map some := by
  generalize pieces bs = parts at h
  induction parts with
  | nil => exact ⟨[], rfl⟩
  | cons part parts ih =>
    rw [List.mem_cons, not_or] at h
    obtain ⟨cs, rfl⟩ := ih h.2
    obtain ⟨c, hc⟩ := Option.ne_none_iff_exists'.mp (Ne.symm h.1)
    exact ⟨c :: cs, by rw [hc, List.map_cons]⟩

/-- A byte string is valid UTF-8 exactly if no part of it is ill-formed. -/
theorem isValidUTF8_iff : bs.toByteArray.IsValidUTF8 ↔ none ∉ pieces bs := by
  constructor
  · rintro ⟨cs, hcs⟩
    have hbs : bs = cs.flatMap String.utf8EncodeChar := List.toByteArray_inj.mp hcs
    rw [pieces_eq_map_some_iff.mpr hbs]
    simp
  · intro h
    obtain ⟨cs, hcs⟩ := exists_pieces_eq_map_some h
    exact ⟨cs, congrArg List.toByteArray (pieces_eq_map_some_iff.mp hcs)⟩

/-- What is not valid UTF-8 is read with a U+FFFD in it. -/
theorem replacement_mem_decodeLossy (h : ¬ bs.toByteArray.IsValidUTF8) :
    '\uFFFD' ∈ (decodeLossy bs).toList := by
  rw [isValidUTF8_iff, Classical.not_not] at h
  rw [decodeLossy, String.toList_ofList]
  exact List.mem_map.mpr ⟨none, h, rfl⟩

end Text.Utf8

/-! ### Messages -/

/-- A payload can be made of every text whose bytes a size field can declare, and is read as it. -/
theorem Payload.exists_ofText {text : String} (h : text.utf8ByteSize ≤ maxPayloadLength) :
    ∃ p, ofText text = .ok p ∧ p.text = text := by
  have hlength : (Text.Utf8.encode text).length ≤ maxPayloadLength := by
    rwa [Text.Utf8.length_encode]
  refine ⟨⟨Text.Utf8.encode text, hlength⟩, dif_pos hlength, ?_⟩
  rw [Payload.text, Text.Utf8.decodeLossy_encode]

/-- A payload of the bytes of a text is read as the text. -/
theorem Payload.text_of_toByteArray {p : Payload} {text : String}
    (h : p.bytes.toByteArray = text.toUTF8) : p.text = text := by
  rw [← Text.Utf8.toByteArray_encode, List.toByteArray_inj] at h
  rw [Payload.text, h, Text.Utf8.decodeLossy_encode]

namespace Datagram

/-- Whether a datagram is what a reader makes of its written form, whatever follows it. -/
def IsReadBack (d : Datagram) : Prop :=
  ∀ (growth : Growth) (tail : Bytes),
    decode ((d.encode growth).bytes ++ tail) = .ok (d, d.encodedLength)

theorem isReadBack (d : Datagram) : d.IsReadBack := by
  intro growth tail
  have hform := wireForm_wire d
  rw [bytes_encode, decode_append_of_wireForm hform, hform.length_eq]

/-- Messages survive the wire. Every text of at most 65535 bytes can be sent in each of the three
refusals, which are read back with the text as their message, next to the other fields they were
made with. Every byte string of at most 65535 bytes can be sent in a refused connection, and comes
back as it was: its message is the text that the bytes are the UTF-8 form of, and has a U+FFFD in it
if they are the form of none. -/
theorem messages_survive :
    (∀ (text : String) (response : TopicResponse) (flag : Flag) (objectId : UInt64),
      text.utf8ByteSize ≤ 65535 → ∃ p : Payload, p.text = text ∧
        (ConnectNack.ofText text = .ok ⟨p⟩ ∧ (connectNack ⟨p⟩).IsReadBack) ∧
        (TopicRequestNack.ofText response text = .ok ⟨response, p⟩ ∧
          (topicRequestNack ⟨response, p⟩).IsReadBack) ∧
        (ObjectRequestNack.ofText flag objectId text =
            .ok ⟨flag ||| Flag.failed, objectId, p⟩ ∧
          (objectRequestNack ⟨flag ||| Flag.failed, objectId, p⟩).IsReadBack)) ∧
    (∀ message : Bytes, message.length ≤ 65535 → ∃ p : Payload, p.bytes = message ∧
      (ConnectNack.ofBytes message = .ok ⟨p⟩ ∧ (connectNack ⟨p⟩).IsReadBack) ∧
      (∀ text : String, message.toByteArray = text.toUTF8 → p.text = text) ∧
      (¬ message.toByteArray.IsValidUTF8 → '\uFFFD' ∈ p.text.toList)) := by
  constructor
  · intro text response flag objectId hlength
    obtain ⟨p, hp, htext⟩ := Payload.exists_ofText hlength
    refine ⟨p, htext, ⟨?_, isReadBack _⟩, ⟨?_, isReadBack _⟩, ?_, isReadBack _⟩
    · rw [ConnectNack.ofText, hp]
      rfl
    · rw [TopicRequestNack.ofText, hp]
      rfl
    · rw [ObjectRequestNack.ofText, hp]
      rfl
  · intro message hlength
    have hp : Payload.ofBytes message = .ok ⟨message, hlength⟩ := dif_pos hlength
    refine ⟨⟨message, hlength⟩, rfl, ⟨?_, isReadBack _⟩, ?_, ?_⟩
    · rw [ConnectNack.ofBytes, hp]
      rfl
    · intro text htext
      exact Payload.text_of_toByteArray htext
    · exact Text.Utf8.replacement_mem_decodeLossy

/-- A text with NUL and with characters of two, three and four bytes comes back, and so do bytes
that are no text, with a mark in their message. -/
theorem messages_survive_sample :
    (∃ p : Payload, p.text = "a\x00é€😀" ∧ (connectNack ⟨p⟩).IsReadBack ∧
      (topicRequestNack ⟨.subFailure, p⟩).IsReadBack ∧
      (objectRequestNack ⟨0x41, 7, p⟩).IsReadBack) ∧
    ∃ p : Payload, p.bytes = [0xFF, 0x6F, 0x6B] ∧ (connectNack ⟨p⟩).IsReadBack ∧
      '\uFFFD' ∈ p.text.toList := by
  obtain ⟨hofText, hofBytes⟩ := messages_survive
  obtain ⟨p, htext, ⟨-, hconnect⟩, ⟨-, htopic⟩, -, hobject⟩ :=
    hofText "a\x00é€😀" .subFailure 0x01 7 (by decide)
  obtain ⟨q, hbytes, ⟨-, hread⟩, -, hmark⟩ := hofBytes [0xFF, 0x6F, 0x6B] (by decide)
  have hinvalid : ¬ (List.toByteArray [0xFF, 0x6F, 0x6B]).IsValidUTF8 := by
    rw [Text.Utf8.isValidUTF8_iff, Text.Utf8.pieces]
    exact fun h ↦ h List.mem_cons_self
  exact ⟨⟨p, htext, hconnect, htopic, hobject⟩, q, hbytes, hread, hmark hinvalid⟩

end Datagram

end TopicWire
