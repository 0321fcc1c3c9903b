import TopicWire.Proofs.Completion
import TopicWire.Proofs.RefusalOrder

/-!
# The decoder of a kind and the decoder of any kind

A datagram can be read in two ways. A caller that knows which kind it wants reads with the decoder
of that kind, which compares the first byte with the byte at the place of the kind in the table. The
decoder of any kind searches the table for the first byte and reads what it finds.

For a kind with a layout the search and the place agree (`Kind.ofCode_eq_iff_getElem?`): no byte is
shared, and the kind that stands for unclaimed bytes has no layout. So the two decoders agree as
well (`Datagram.agrees_of_layout`). They accept the same datagrams of the kind, they refuse a byte
string of the kind for the same reason, and a byte string of another kind is refused by its first
byte. Hence no two decoders accept one byte string (`Datagram.decodeAs_agrees`).
-/

set_option autoImplicit false
set_option relaxedAutoImplicit false

namespace TopicWire

/-! ### Searching the table and going to a place in it -/

namespace Kind

/-- The bytes of the kinds, in table order. -/
def codes : List UInt8 := all.map code

/-- At the place of a kind in the table stands its byte. -/
theorem getElem?_codes (kind : Kind) : codes[kind.ctorIdx]? = some kind.code := by
  cases kind <;> rfl

/-- A search of the table comes to a kind with a layout by one byte only. -/
theorem ofCode_eq_iff {kind : Kind} {layout : Layout} (h : kind.layout? = some layout)
    (byte : UInt8) : ofCode byte = kind ↔ byte = kind.code := by
  constructor
  · rintro rfl
    exact (code_ofCode h).symm
  · rintro rfl
    exact ofCode_code kind

/-- That byte is the one at the place of the kind. -/
theorem ofCode_eq_iff_getElem? {kind : Kind} {layout : Layout} (h : kind.layout? = some layout)
    (byte : UInt8) : ofCode byte = kind ↔ codes[kind.ctorIdx]? = some byte := by
  rw [ofCode_eq_iff h, getElem?_codes, Option.some.injEq, eq_comm]

end Kind

namespace Datagram

/-! ### The decoder of one kind -/

section OneKind

variable {kind : Kind} {buf : Bytes}

/-- A byte string of the kind is read as the decoder of any kind reads it. -/
theorem decodeAs_of_peek? (h : Kind.peek? buf = some kind) : decodeAs kind buf = decode buf := by
  obtain ⟨code, bs, rfl, rfl⟩ := Kind.exists_of_peek? h
  rw [decode_cons]

/-- A byte string that starts with another byte than the kind's is refused for it. -/
theorem decodeAs_of_code_ne {layout : Layout} {code : UInt8}
    (hlayout : kind.layout? = some layout) (h : code ≠ kind.code) (bs : Bytes) :
    decodeAs kind (code :: bs) = .error (.refused (.unexpectedType kind code)) := by
  simp only [decodeAs, hlayout, if_neg h]
  rfl

/-- What the decoder of a kind accepts is of that kind by its first byte. -/
theorem peek?_of_decodeAs {accepted : Datagram × Nat} (h : decodeAs kind buf = .ok accepted) :
    Kind.peek? buf = some kind := by
  cases hlayout : kind.layout? with
  | none =>
    unfold decodeAs at h
    rw [hlayout] at h
    cases buf <;> cases h
  | some layout =>
    cases buf with
    | nil => cases h
    | cons code bs =>
      by_cases hcode : code = kind.code
      · rw [hcode]
        show some (Kind.ofCode kind.code) = some kind
        rw [Kind.ofCode_code]
      · rw [decodeAs_of_code_ne hlayout hcode] at h
        cases h

/-- What the decoder of any kind accepts is a datagram of the kind that the first byte names. -/
theorem peek?_of_decode {d : Datagram} {n : Nat} (h : decode buf = .ok (d, n)) :
    Kind.peek? buf = some d.kind := by
  cases buf with
  | nil => cases h
  | cons code bs =>
    rw [kind_of_decode h]
    rfl

end OneKind

/-! ### Agreement -/

/-- What a decoder of a kind answers on a byte string agrees with the decoder of any kind. -/
structure Agrees (kind : Kind) (buf : Bytes) (answer : Except Fault (Datagram × Nat)) : Prop where
  /-- The two accept the same datagrams of the kind, with as many bytes. -/
  ok_iff (d : Datagram) (n : Nat) :
    answer = .ok (d, n) ↔ d.kind = kind ∧ decode buf = .ok (d, n)
  /-- A byte string of the kind that one refuses the other refuses for the same reason. -/
  error (fault : Fault) (hkind : Kind.peek? buf = some kind) (h : decode buf = .error fault) :
    answer = .error fault
  /-- Any other byte string is refused by its first byte. -/
  unexpected (code : UInt8) (bs : Bytes) (hbuf : buf = code :: bs)
    (hkind : Kind.peek? buf ≠ some kind) :
    answer = .error (.refused (.unexpectedType kind code))

theorem agrees_of_layout {kind : Kind} {layout : Layout} (hlayout : kind.layout? = some layout)
    (buf : Bytes) : Agrees kind buf (decodeAs kind buf) where
  ok_iff d n := by
    constructor
    · intro h
      have hkind := peek?_of_decodeAs h
      rw [decodeAs_of_peek? hkind] at h
      have hd := peek?_of_decode h
      rw [hkind, Option.some.injEq] at hd
      exact ⟨hd.symm, h⟩
    · rintro ⟨rfl, h⟩
      rw [decodeAs_of_peek? (peek?_of_decode h), h]
  error fault hkind h := by rw [decodeAs_of_peek? hkind, h]
  unexpected code bs hbuf hkind := by
    subst hbuf
    refine decodeAs_of_code_ne hlayout (fun hcode ↦ hkind ?_) bs
    exact congrArg some ((Kind.ofCode_eq_iff hlayout code).mpr hcode)

/-- On every byte string the decoder of each kind with a layout agrees with the decoder that takes
the kind from the first byte (`Agrees`), whether it cuts off a frame or reads in place. The byte
that the search of the table takes for the kind is the one at the place of the kind. So the decoder
of one kind at most accepts, and what the decoder of any kind accepts is of the kind that the first
byte names. -/
theorem decodeAs_agrees (buf : Bytes) :
    (∀ kind layout, kind.layout? = some layout →
        Agrees kind buf (decodeAs kind buf) ∧ Agrees kind buf (InPlace.decodeAs kind buf) ∧
          ∀ code, buf.head? = some code →
            (Kind.peek? buf = some kind ↔ Kind.codes[kind.ctorIdx]? = some code)) ∧
      (∀ kind other accepted accepted', decodeAs kind buf = .ok accepted →
        decodeAs other buf = .ok accepted' → kind = other) ∧
      ∀ d n, decode buf = .ok (d, n) → Kind.peek? buf = some d.kind := by
  refine ⟨fun kind layout hlayout ↦ ⟨agrees_of_layout hlayout buf, ?_, ?_⟩, ?_, ?_⟩
  · rw [InPlace.decodeAs_eq]
    exact agrees_of_layout hlayout buf
  · intro code hcode
    rw [← Kind.ofCode_eq_iff_getElem? hlayout, Kind.peek?, hcode, Option.map_some,
      Option.some.injEq]
  · intro kind other accepted accepted' hkind hother
    have hsame := (peek?_of_decodeAs hkind).symm.trans (peek?_of_decodeAs hother)
    exact Option.some.inj hsame
  · intro d n h
    exact peek?_of_decode h

/-- A ping that another byte follows is read as a ping and refused as a pong; of a ping that is cut
the decoder of pings says what the decoder of any kind says. -/
theorem decodeAs_agrees_ping :
    Kind.layout? .ping = some ⟨2, .fixed⟩ ∧ Kind.layout? .pong = some ⟨2, .fixed⟩ ∧
      decodeAs .ping [0x62, 7, 9] = .ok (.ping ⟨7⟩, 2) ∧
      decodeAs .pong [0x62, 7, 9] = .error (.refused (.unexpectedType .pong 0x62)) ∧
      Kind.peek? [0x62, 7, 9] = some .ping ∧
      decodeAs .ping [0x62] = .error (.refused (.truncated .ping 2 1)) := by
  obtain ⟨hkinds, -, hpeek⟩ := decodeAs_agrees [0x62, 7, 9]
  obtain ⟨hping, -⟩ := hkinds .ping _ rfl
  obtain ⟨hpong, -⟩ := hkinds .pong _ rfl
  have hread : decode [0x62, 7, 9] = .ok (.ping ⟨7⟩, 2) := rfl
  obtain ⟨hcut, -⟩ := (decodeAs_agrees [0x62]).1 .ping _ rfl
  refine ⟨rfl, rfl, (hping.ok_iff _ _).mpr ⟨rfl, hread⟩, ?_, hpeek _ _ hread, ?_⟩
  · exact hpong.unexpected 0x62 [7, 9] rfl (by decide)
  · exact hcut.error _ rfl rfl

end Datagram

end TopicWire
