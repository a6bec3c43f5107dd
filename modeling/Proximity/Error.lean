import Proximity.Config
import Proximity.Failure

/-! All errors of the library under one type. -/
namespace Proximity

inductive Error where
  | attempt (e : Failure)
  | frame (e : FrameError)
  | invalidLength (e : LengthError)
  | invalidHex (reason : String)
  | invalidConfig (reason : String)
  | linkMissing
deriving DecidableEq

namespace Error

def ofHexFault (e : Hex.Fault) : Error :=
  .invalidHex e.message

def ofConfigFault (e : ConfigFault) : Error :=
  .invalidConfig e.message

def message : Error → String
  | .attempt e => e.message
  | .frame e => e.message
  | .invalidLength e => s!"invalid length: expected {e.expected}, got {e.actual}"
  | .invalidHex reason => s!"invalid hex: {reason}"
  | .invalidConfig reason => s!"invalid configuration: {reason}"
  | .linkMissing => "no transport configured"

def cause? : Error → Option LinkError
  | .attempt e => e.cause?
  | _ => none

end Error

end Proximity
