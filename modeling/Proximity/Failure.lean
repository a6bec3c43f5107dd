import Proximity.Block
import Proximity.Hex
import Proximity.Link

/-! Why an attempt to talk to the card failed, and how that reads. -/
namespace Proximity

def Crc.Trailer.text (t : Crc.Trailer) : String :=
  s!"[{Hex.compact [t.low]}, {Hex.compact [t.high]}]"

def LinkError.message : LinkError → String
  | .timeout => "no response from tag"
  | .collision => "collision detected"
  | .parity => "parity error"
  | .overflow => "receive buffer overflow"
  | .status code => s!"link status {Hex.literal code}"

def FrameError.message : FrameError → String
  | .tooShort length => s!"frame too short: {length} bytes"
  | .crcMismatch expected actual => s!"crc mismatch: expected {expected.text}, got {actual.text}"

inductive Failure where
  | link (e : LinkError)
  | frameTooShort (bits : Nat)
  | crcMismatch (expected actual : Crc.Trailer)
  | responseTooLarge (length capacity : Nat)
  | extensionsExceeded (granted : Nat)
  | unsupportedBlock (pcb : Pcb)
  /-- The request did not fit a frame, so that nothing was sent. -/
  | oversized (e : Oversized)
deriving DecidableEq

namespace Failure

/-- Lengths are counted in bits from here on. -/
def ofFrameError : FrameError → Failure
  | .tooShort length => .frameTooShort (8 * length)
  | .crcMismatch expected actual => .crcMismatch expected actual

def message : Failure → String
  | .link e => s!"link error: {e.message}"
  | .frameTooShort bits => s!"response frame too short: {bits} bits"
  | .crcMismatch expected actual =>
    s!"response crc mismatch: expected {expected.text}, got {actual.text}"
  | .responseTooLarge length capacity =>
    s!"response of {length} bytes exceeds buffer of {capacity} bytes"
  | .extensionsExceeded granted =>
    s!"waiting time extension requested more than {granted} times"
  | .unsupportedBlock pcb => s!"unsupported block: pcb={Hex.literal pcb}"
  | .oversized e => e.message

/-- The error underneath. Only the link has one. -/
def cause? : Failure → Option LinkError
  | .link e => some e
  | _ => none

end Failure

end Proximity
