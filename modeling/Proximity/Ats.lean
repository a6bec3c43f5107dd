import Proximity.Bytes

/-!
The answer to select: a length byte that counts itself, a format byte, the interface bytes that it
announces, and historical bytes.
-/
namespace Proximity

/-- What follows the length byte, when anything does. -/
structure Ats.Body where
  t0 : UInt8
  ta? : Option UInt8
  tb? : Option UInt8
  tc? : Option UInt8
  historical : Bytes
deriving DecidableEq

structure Ats where
  tl : UInt8
  body? : Option Ats.Body
deriving DecidableEq

namespace Ats

def taFlag : UInt8 := 0x10
def tbFlag : UInt8 := 0x20
def tcFlag : UInt8 := 0x40

/-- Reads the interface byte at `i` if `t0` announces it, and says where the next field starts. -/
def interfaceByte (counted : Bytes) (t0 flag : UInt8) (i : Nat) :
    Except LengthError (Option UInt8 × Nat) :=
  if t0 &&& flag = 0 then .ok (none, i)
  else do
    let b ← Bytes.byteAt counted i
    return (some b, i + 1)

/-- Reads the fields behind the length byte. `counted` starts with the length byte and holds as many
bytes as it says. -/
def Body.parse (counted : Bytes) (t0 : UInt8) : Except LengthError Body := do
  let (ta?, i) ← interfaceByte counted t0 taFlag 2
  let (tb?, i) ← interfaceByte counted t0 tbFlag i
  let (tc?, i) ← interfaceByte counted t0 tcFlag i
  let historical ← Bytes.sliceAt counted i (counted.length - i)
  return ⟨t0, ta?, tb?, tc?, historical⟩

def parse (bytes : Bytes) : Except LengthError Ats := do
  let tl ← Bytes.byteAt bytes 0
  if tl = 0 then throw ⟨1, 0⟩
  Bytes.require bytes tl.toNat
  let counted := bytes.take tl.toNat
  match counted.tail.head? with
  | none => return ⟨tl, none⟩
  | some t0 => return ⟨tl, some (← Body.parse counted t0)⟩

def t0? (ats : Ats) : Option UInt8 :=
  ats.body?.map (·.t0)

def ta? (ats : Ats) : Option UInt8 :=
  ats.body?.bind (·.ta?)

def tb? (ats : Ats) : Option UInt8 :=
  ats.body?.bind (·.tb?)

def tc? (ats : Ats) : Option UInt8 :=
  ats.body?.bind (·.tc?)

def historical (ats : Ats) : Bytes :=
  (ats.body?.map (·.historical)).getD []

/-- The frame size code of a card that names none. -/
def defaultSizeCode : UInt8 := 2

def sizeCode (ats : Ats) : UInt8 :=
  match ats.t0? with
  | some t0 => t0 &&& 0x0F
  | none => defaultSizeCode

def sizes : List Nat := [16, 24, 32, 40, 48, 64, 96, 128, 256]

/-- The largest frame that the card takes, in bytes. Codes beyond the table count as its last. -/
def maxFrame (ats : Ats) : Nat :=
  (sizes[ats.sizeCode.toNat]?).getD 256

/-- The printable characters among the historical bytes, space included. -/
def historicalText (ats : Ats) : String :=
  let printable := ats.historical.filter fun b => 0x20 ≤ b && b ≤ 0x7E
  String.ofList (printable.map fun b => Char.ofNat b.toNat)

end Ats

end Proximity
