import Proximity.Config

/-!
Configurations read from a stored document, as a record or as a sequence. No condition is checked.
-/
namespace Proximity

/-- One value of a document, as far as a configuration looks into it. -/
inductive Stored.Value where
  | integer (n : Int)
  | other
deriving DecidableEq

inductive Stored where
  | record (fields : List (String × Stored.Value))
  | sequence (values : List Stored.Value)
  | other

namespace Stored

/-- The number a field may hold: it fits an unsigned word. -/
def Value.word? : Value → Option Nat
  | .integer n => if 0 ≤ n ∧ n < UInt64.size then some n.toNat else none
  | .other => none

/-- The word at a place of the document, or `ordinary` where nothing stands. -/
def wordOr (ordinary : Nat) : Option Value → Option Nat
  | none => some ordinary
  | some value => value.word?

/-- Reads the four fields, each absent or present. -/
def fields? (capacity? extensions? wait? response? : Option Value) : Option Config := do
  let ordinary : Config := {}
  let frameCapacity ← wordOr ordinary.frameCapacity capacity?
  let maxExtensions ← wordOr ordinary.maxExtensions extensions?
  let frameWait ← wordOr ordinary.frameWait.toNat wait?
  let maxResponse ← wordOr ordinary.maxResponse response?
  return { frameCapacity, maxExtensions, frameWait := .ofNat frameWait, maxResponse }

/-- Unknown names are passed over. A sequence may stop early but not go on. -/
def config? : Stored → Option Config
  | .record fields =>
    fields? (fields.lookup "frame_capacity") (fields.lookup "max_wtx_rounds")
      (fields.lookup "frame_wait_ms") (fields.lookup "max_response_len")
  | .sequence values =>
    if 4 < values.length then none else fields? values[0]? values[1]? values[2]? values[3]?
  | .other => none

end Stored

end Proximity
