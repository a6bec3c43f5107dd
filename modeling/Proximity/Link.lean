import Proximity.Bytes

/-! Half-duplex links: a reader sends, then waits for what the card answers. -/
namespace Proximity

inductive LinkError where
  | timeout
  | collision
  | parity
  | overflow
  | status (code : UInt8)
deriving DecidableEq

/-- What one exchange leaves behind: the number of bits received, the receive buffer, the link. -/
structure Exchanged (σ : Type) where
  outcome : Except LinkError Nat
  buffer : Bytes
  link : σ

def Exchanged.map {σ τ : Type} (f : σ → τ) (done : Exchanged σ) : Exchanged τ :=
  ⟨done.outcome, done.buffer, f done.link⟩

class Link (σ : Type) where
  /-- Sends the first `bits` bits of `frame` and waits up to `wait` milliseconds for an answer. The
  reported number of bits need not agree with what was written to the buffer. -/
  exchange (link : σ) (frame : Bytes) (bits : Nat) (buffer : Bytes) (wait : UInt64) : Exchanged σ
  /-- Sends whole bytes. A link may have its own way to do so. -/
  exchangeBytes (link : σ) (frame buffer : Bytes) (wait : UInt64) : Exchanged σ :=
    exchange link frame (8 * frame.length) buffer wait

/-- A link in the keeping of a session. Only single exchanges are passed on, so whole bytes go out
as eight bits each, whatever way the link itself has for them. -/
structure Handle (σ : Type) where
  link : σ

instance {σ : Type} [Link σ] : Link (Handle σ) where
  exchange handle frame bits buffer wait :=
    (Link.exchange handle.link frame bits buffer wait).map Handle.mk

end Proximity
