import Proximity.Failure

/-! What a session notes while it talks, as data and as lines of text. -/
namespace Proximity

inductive Level where
  | trace
  | debug
  | warn

def Level.text : Level → String
  | .trace => "TRACE"
  | .debug => "DEBUG"
  | .warn => "WARN"

inductive Event where
  | informationSent (number : BlockNumber) (frame : Bytes)
  /-- The `round`-th extension of an attempt was granted; rounds count from one. -/
  | extensionSent (round : Nat) (multiplier : UInt8) (wait : UInt64) (frame : Bytes)
  | deselectSent (frame : Bytes)
  | received (raw : Bytes)
  | linkFailed (e : LinkError)
  | unsupported (pcb : Pcb)
  | extensionsExhausted (granted : Nat)
deriving DecidableEq

namespace Event

def level : Event → Level
  | .received _ => .trace
  | .extensionsExhausted _ => .warn
  | _ => .debug

def text : Event → String
  | .informationSent number frame => s!"I({number.toNat}) -> {Hex.spaced frame}"
  | .extensionSent round multiplier wait frame =>
    s!"WTX #{round} wtxm={Hex.literal multiplier} wait={wait.toNat}ms -> {Hex.spaced frame}"
  | .deselectSent frame => s!"DESELECT -> {Hex.spaced frame}"
  | .received raw => s!"<- {Hex.spaced raw}"
  | .linkFailed e => s!"link error: {e.message}"
  | .unsupported pcb => s!"unsupported {pcb.kind.text} pcb={Hex.literal pcb}"
  | .extensionsExhausted granted => s!"tag requested WTX after {granted} rounds, giving up"

def line (e : Event) : String :=
  s!"{e.level.text} {e.text}"

end Event

end Proximity
