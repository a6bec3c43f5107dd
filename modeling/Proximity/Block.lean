import Proximity.Frame

/-! What an intact frame says. -/
namespace Proximity

inductive Block where
  | information (pcb : Pcb) (payload : Bytes)
  | acknowledge (pcb : Pcb)
  | supervisory (pcb : Pcb) (payload : Bytes)
  | reserved (pcb : Pcb)
deriving DecidableEq

inductive FrameError where
  | tooShort (length : Nat)
  | crcMismatch (expected actual : Crc.Trailer)
deriving DecidableEq

namespace Block

def pcb : Block → Pcb
  | information pcb _ => pcb
  | acknowledge pcb => pcb
  | supervisory pcb _ => pcb
  | reserved pcb => pcb

def number? : Block → Option BlockNumber
  | information pcb _ => some pcb.number
  | _ => none

/-- Whether a supervisory block is about a waiting-time extension. -/
def isExtension? : Block → Option Bool
  | supervisory pcb _ => some pcb.isExtension
  | _ => none

def ofFrame (frame : Frame) : Block :=
  match frame.pcb.kind with
  | .information => information frame.pcb frame.inf
  | .acknowledge => acknowledge frame.pcb
  | .supervisory => supervisory frame.pcb frame.inf
  | .reserved => reserved frame.pcb

/-- Length comes before checksum: a frame too short to hold one is not compared with any. -/
def decode (raw : Bytes) : Except FrameError Block :=
  match Frame.ofBytes? raw with
  | none => .error (.tooShort raw.length)
  | some frame =>
    if frame.trailer = frame.checksum then .ok (ofFrame frame)
    else .error (.crcMismatch frame.checksum frame.trailer)

end Block

end Proximity
