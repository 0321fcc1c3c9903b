import TopicWire.Reader

/-!
# Receiving in chunks

A receiver keeps the bytes that have come in and are not yet read. Each chunk is appended to them,
all the datagrams at the front are read, and what the reader leaves waits for the next chunk.
-/

set_option autoImplicit false
set_option relaxedAutoImplicit false

namespace TopicWire

/-- What one chunk brought: the items read and the reader after them. -/
structure Round where
  items : List Item
  reader : Reader

/-- The bytes received and not yet read. -/
structure Receiver where
  pending : Bytes
  deriving DecidableEq, Repr

namespace Receiver

/-- A receiver that has received nothing. -/
def empty : Receiver := ⟨[]⟩

/-- Takes in a chunk. -/
def receive (receiver : Receiver) (chunk : Bytes) : Round × Receiver :=
  let input := receiver.pending ++ chunk
  let (attempts, reader) := (Reader.ofBytes input).drain
  (⟨attempts.map Attempt.item, reader⟩, ⟨input.drop reader.position⟩)

/-- Takes in chunks in order. -/
def receiveAll : Receiver → List Bytes → List Round × Receiver
  | receiver, [] => ([], receiver)
  | receiver, chunk :: chunks =>
    let (round, receiver) := receiver.receive chunk
    let (rounds, receiver) := receiveAll receiver chunks
    (round :: rounds, receiver)

end Receiver

end TopicWire
