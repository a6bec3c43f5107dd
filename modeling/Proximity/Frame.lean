import Proximity.Crc
import Proximity.Pcb

/-!
Frames as they go over the air: a control byte, an information field and the checksum of both.
-/
namespace Proximity

structure Frame where
  pcb : Pcb
  inf : Bytes
  trailer : Crc.Trailer
deriving DecidableEq

/-- A payload of `length` bytes met a frame with room for `limit`. -/
structure Oversized where
  length : Nat
  limit : Nat
deriving DecidableEq

def Oversized.message (e : Oversized) : String :=
  s!"payload of {e.length} bytes exceeds frame payload of {e.limit} bytes"

namespace Frame

/-- The bytes of a frame around its information field. -/
def overhead : Nat := 3

def minLength : Nat := 3

def toBytes (frame : Frame) : Bytes :=
  frame.pcb :: frame.inf ++ frame.trailer.toBytes

/-- Cuts the control byte off the front and the checksum off the back. -/
def ofBytes? (raw : Bytes) : Option Frame :=
  match raw.take (raw.length - 2), raw.drop (raw.length - 2) with
  | pcb :: inf, [low, high] => some ⟨pcb, inf, ⟨low, high⟩⟩
  | _, _ => none

def checksum (frame : Frame) : Crc.Trailer :=
  Crc.trailer (frame.pcb :: frame.inf)

def sealed (pcb : Pcb) (inf : Bytes) : Frame :=
  ⟨pcb, inf, Crc.trailer (pcb :: inf)⟩

/-- An information block. Longer payloads are refused, since blocks are never chained. -/
def information (number : BlockNumber) (payload : Bytes) (limit : Nat) : Except Oversized Frame :=
  if limit < payload.length then .error ⟨payload.length, limit⟩
  else .ok (sealed (Pcb.information number) payload)

/-- A waiting-time extension, asked for or granted: both sides send the same frame. -/
def extension (multiplier : UInt8) : Frame :=
  sealed Pcb.extension [multiplier]

def deselect : Frame :=
  sealed Pcb.deselect []

theorem toBytes_sealed (pcb : Pcb) (inf : Bytes) :
    (sealed pcb inf).toBytes = Crc.append (pcb :: inf) := rfl

end Frame

end Proximity
