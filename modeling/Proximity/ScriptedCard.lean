import Proximity.Link

/-! A link that plays a script: queued replies first, then a fallback that never runs out. -/
namespace Proximity

inductive Reply where
  /-- Answers with `frame` but reports `bits`. -/
  | answer (frame : Bytes) (bits : Nat)
  | fail (e : LinkError)
deriving DecidableEq

/-- Answers with `frame` and reports its true length. -/
def Reply.whole (frame : Bytes) : Reply :=
  .answer frame (8 * frame.length)

structure Transmission where
  frame : Bytes
  bits : Nat
  wait : UInt64
deriving DecidableEq

structure ScriptedCard where
  queue : List Reply := []
  /-- The reply to every exchange once the queue is empty. Without one the card is silent. -/
  fallback? : Option Reply := none
  sent : List Transmission := []

namespace ScriptedCard

def frames (card : ScriptedCard) : List Bytes :=
  card.sent.map Transmission.frame

def bitCounts (card : ScriptedCard) : List Nat :=
  card.sent.map Transmission.bits

def waits (card : ScriptedCard) : List UInt64 :=
  card.sent.map Transmission.wait

def enqueue (card : ScriptedCard) (reply : Reply) : ScriptedCard :=
  { card with queue := card.queue ++ [reply] }

def next? (card : ScriptedCard) : Option Reply :=
  card.queue.head?.or card.fallback?

/-- The bytes that hold the first `bits` bits, as far as there are any. -/
def transmitted (frame : Bytes) (bits : Nat) : Bytes :=
  frame.take ((bits + 7) / 8)

/-- The card after an exchange, whatever came of it. -/
def advance (card : ScriptedCard) (t : Transmission) : ScriptedCard :=
  { card with queue := card.queue.tail, sent := card.sent ++ [t] }

/-- What a reply does to a receive buffer. -/
def receive (buffer : Bytes) : Option Reply → Except LinkError Nat × Bytes
  | none => (.error .timeout, buffer)
  | some (.fail e) => (.error e, buffer)
  | some (.answer frame bits) =>
    if buffer.length < frame.length then (.error .overflow, buffer)
    else (.ok bits, Bytes.overwrite buffer frame)

instance : Link ScriptedCard where
  exchange card frame bits buffer wait :=
    let (outcome, buffer) := receive buffer card.next?
    ⟨outcome, buffer, card.advance ⟨transmitted frame bits, bits, wait⟩⟩

end ScriptedCard

end Proximity
