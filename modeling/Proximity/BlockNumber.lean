/-! The one-bit sequence number of information blocks. -/
namespace Proximity

inductive BlockNumber where
  | zero
  | one
deriving DecidableEq, Inhabited

namespace BlockNumber

def ofBool : Bool → BlockNumber
  | false => zero
  | true => one

def toNat : BlockNumber → Nat
  | zero => 0
  | one => 1

def toggle : BlockNumber → BlockNumber
  | zero => one
  | one => zero

@[simp] theorem toggle_toggle (n : BlockNumber) : n.toggle.toggle = n := by
  cases n <;> rfl

end BlockNumber

end Proximity
