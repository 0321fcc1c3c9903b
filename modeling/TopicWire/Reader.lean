import TopicWire.Datagram.Decode

/-!
# Reading a run of datagrams

One byte string may hold many datagrams in a row. A `Reader` stands at the next one and moves on by
the number of bytes that each occupies. The wire has no mark to find the next datagram by, so a
reader stops for good at the first fault, with the rest of the bytes in hand.
-/

set_option autoImplicit false
set_option relaxedAutoImplicit false

namespace TopicWire

/-- A place in a byte string: the number of bytes before it, the bytes after it, and whether what
lies there was found faulty. -/
structure Reader where
  position : Nat
  rest : Bytes
  failed : Bool
  deriving DecidableEq, Repr

/-- One attempt to read: where it was made, on which bytes, and what came of it. -/
structure Attempt where
  offset : Nat
  input : Bytes
  outcome : Except Fault (Datagram × Nat)

/-- A datagram, or why there is none. -/
abbrev Item := Except Fault Datagram

/-- What an attempt yields. -/
def Attempt.item (attempt : Attempt) : Item := attempt.outcome.map Prod.fst

namespace Reader

/-- A reader at the start of a byte string. -/
def ofBytes (buf : Bytes) : Reader := ⟨0, buf, false⟩

/-- The number of bytes not yet read. -/
def remaining (r : Reader) : Nat := r.rest.length

/-- The reader after an attempt: past the datagram, or failed at the same place. -/
def after (r : Reader) (outcome : Except Fault (Datagram × Nat)) : Reader :=
  match outcome with
  | .ok (_, consumed) =>
    { r with position := r.position + consumed, rest := r.rest.drop consumed }
  | .error _ => { r with failed := true }

/-- The next attempt and the reader after it, unless the reader has failed or is at the end. -/
def next? (r : Reader) : Option (Attempt × Reader) :=
  if r.failed || r.rest.isEmpty then none
  else
    let outcome := Datagram.decode r.rest
    some (⟨r.position, r.rest, outcome⟩, r.after outcome)

/-- Up to `count` attempts and the reader after them. -/
def take : Nat → Reader → List Attempt × Reader
  | 0, r => ([], r)
  | count + 1, r =>
    match r.next? with
    | none => ([], r)
    | some (attempt, r) =>
      let (attempts, r) := take count r
      (attempt :: attempts, r)

/-- All the attempts left and the reader after them. A datagram has at least one byte, so there are
no more attempts than bytes. -/
def drain (r : Reader) : List Attempt × Reader := take r.remaining r

/-- The attempt after the next `skipped` ones, if there are as many, and the reader after it. -/
def nth (skipped : Nat) (r : Reader) : Option Attempt × Reader :=
  let r := (take skipped r).2
  match r.next? with
  | none => (none, r)
  | some (attempt, r) => (some attempt, r)

/-- The number of attempts left and the reader after them. -/
def count (r : Reader) : Nat × Reader :=
  let (attempts, r) := r.drain
  (attempts.length, r)

end Reader

/-- Everything that a byte string yields when it is read to the end or to the first fault. -/
def Reader.items (buf : Bytes) : List Item := (Reader.ofBytes buf).drain.1.map Attempt.item

end TopicWire
