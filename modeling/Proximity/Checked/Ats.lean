import Proximity.Ats
import Proximity.Checked

/-! Reading an answer to select on the machine that stops at a fault. -/
namespace Proximity.Checked

/-- A reading that ends with a value or an error, if it does not stop at a fault. -/
abbrev Reading : Type → Type :=
  ExceptT LengthError (Except Fault)

def require (bytes : Bytes) (n : Nat) : Reading Unit :=
  if bytes.length < n then throw (⟨n, bytes.length⟩ : LengthError) else return ()

def byteWithin (bytes : Bytes) (i : Nat) : Reading UInt8 := do
  require bytes (i + 1)
  byteAt bytes i

def sliceWithin (bytes : Bytes) (i n : Nat) : Reading Bytes := do
  require bytes (i + n)
  let upTo ← front bytes (i + n)
  back upTo i

def interfaceByte (counted : Bytes) (t0 flag : UInt8) (i : Nat) :
    Reading (Option UInt8 × Nat) :=
  if t0 &&& flag = 0 then return (none, i)
  else do
    let b ← byteWithin counted i
    return (some b, i + 1)

/-- The length of the last field is a difference. -/
def atsBody (counted : Bytes) (t0 : UInt8) : Reading Ats.Body := do
  let (ta?, i) ← interfaceByte counted t0 Ats.taFlag 2
  let (tb?, i) ← interfaceByte counted t0 Ats.tbFlag i
  let (tc?, i) ← interfaceByte counted t0 Ats.tcFlag i
  let n ← minus counted.length i
  let historical ← sliceWithin counted i n
  return ⟨t0, ta?, tb?, tc?, historical⟩

def ats (bytes : Bytes) : Reading Ats := do
  let tl ← byteWithin bytes 0
  if tl = 0 then throw (⟨1, 0⟩ : LengthError)
  require bytes tl.toNat
  let counted ← front bytes tl.toNat
  if counted.length = 1 then return ⟨tl, none⟩
  else
    let t0 ← byteAt counted 1
    return ⟨tl, some (← atsBody counted t0)⟩

end Proximity.Checked
