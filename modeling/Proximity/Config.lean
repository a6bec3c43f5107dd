import Proximity.Frame
import Proximity.WaitingTime

/-! The tunables of a session and the conditions under which it may be built with them. -/
namespace Proximity

structure Config where
  /-- Bytes of one frame, control byte and checksum included. -/
  frameCapacity : Nat := 256
  /-- Waiting-time extensions granted within one attempt. -/
  maxExtensions : Nat := 10
  /-- Milliseconds to wait for an answer. -/
  frameWait : UInt64 := WaitingTime.ordinary
  /-- Response bytes that a plain request takes. -/
  maxResponse : Nat := 253
deriving DecidableEq

inductive ConfigFault where
  | noPayload (frameCapacity : Nat)
  | noWait
  | responseTooLong (maxResponse maxPayload : Nat)
deriving DecidableEq

def ConfigFault.message : ConfigFault → String
  | .noPayload capacity => s!"frame_capacity {capacity} leaves no room for payload"
  | .noWait => "frame_wait_ms must be positive"
  | .responseTooLong length limit => s!"max_response_len {length} exceeds frame payload {limit}"

namespace Config

/-- The largest information field that fits a frame. -/
def maxPayload (config : Config) : Nat :=
  config.frameCapacity - Frame.overhead

/-- Reports the first condition that fails. -/
def validate (config : Config) : Except ConfigFault Unit :=
  if config.frameCapacity ≤ Frame.overhead then .error (.noPayload config.frameCapacity)
  else if config.frameWait = 0 then .error .noWait
  else if config.maxPayload < config.maxResponse then
    .error (.responseTooLong config.maxResponse config.maxPayload)
  else .ok ()

end Config

end Proximity
