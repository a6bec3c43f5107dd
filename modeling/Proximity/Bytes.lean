/-! Byte strings and reads that say how many bytes they miss. -/
namespace Proximity

abbrev Bytes := List UInt8

structure LengthError where
  expected : Nat
  actual : Nat
deriving DecidableEq

namespace Bytes

def require (bytes : Bytes) (n : Nat) : Except LengthError Unit :=
  if bytes.length < n then .error ⟨n, bytes.length⟩ else .ok ()

def byteAt (bytes : Bytes) (i : Nat) : Except LengthError UInt8 :=
  match bytes[i]? with
  | some b => .ok b
  | none => .error ⟨i + 1, bytes.length⟩

/-- The two bytes at `i`, high byte first. -/
def wordAt (bytes : Bytes) (i : Nat) : Except LengthError UInt16 :=
  match bytes.drop i with
  | high :: low :: _ => .ok (high.toUInt16 <<< 8 ||| low.toUInt16)
  | _ => .error ⟨i + 2, bytes.length⟩

def sliceAt (bytes : Bytes) (i n : Nat) : Except LengthError Bytes := do
  require bytes (i + n)
  return (bytes.drop i).take n

/-- Writes `front` over the beginning of `back`; what lies beyond it stays. -/
def overwrite (back front : Bytes) : Bytes :=
  front ++ back.drop front.length

def zeros (n : Nat) : Bytes :=
  List.replicate n 0

@[simp] theorem length_zeros (n : Nat) : (zeros n).length = n :=
  List.length_replicate

theorem zeros_add (m n : Nat) : zeros (m + n) = zeros m ++ zeros n :=
  List.replicate_append_replicate.symm

end Bytes

end Proximity
