import Proximity.Hex

/-! The card's answer to a command: data and a status word. -/
namespace Proximity

structure StatusWord where
  sw1 : UInt8
  sw2 : UInt8
deriving DecidableEq

namespace StatusWord

def success : StatusWord := ⟨0x90, 0x00⟩

def toUInt16 (w : StatusWord) : UInt16 :=
  w.sw1.toUInt16 <<< 8 ||| w.sw2.toUInt16

/-- Four capital digits. -/
def text (w : StatusWord) : String :=
  String.ofList ([w.sw1, w.sw2].flatMap (Hex.pair .upper))

def isSuccess (w : StatusWord) : Bool :=
  w == success

/-- How many more bytes the card holds ready. -/
def bytesAvailable? (w : StatusWord) : Option UInt8 :=
  if w.sw1 = 0x61 then some w.sw2 else none

/-- The length that the command should have asked for. -/
def exactLength? (w : StatusWord) : Option UInt8 :=
  if w.sw1 = 0x6C then some w.sw2 else none

/-- Whether the first byte is `61` to `6F`, but not `66`, or starts with the digit `9`. -/
def isWellFormed (w : StatusWord) : Bool :=
  if w.sw1 = 0x66 then false
  else if 0x61 ≤ w.sw1 ∧ w.sw1 ≤ 0x6F then true
  else w.sw1 &&& 0xF0 == 0x90

end StatusWord

structure ResponseApdu where
  data : Bytes
  status : StatusWord
deriving DecidableEq

namespace ResponseApdu

/-- The last two bytes are the status word. -/
def parse (bytes : Bytes) : Except LengthError ResponseApdu :=
  match bytes.drop (bytes.length - 2) with
  | [sw1, sw2] => .ok ⟨bytes.take (bytes.length - 2), ⟨sw1, sw2⟩⟩
  | _ => .error ⟨2, bytes.length⟩

def isSuccess (response : ResponseApdu) : Bool :=
  response.status.isSuccess

end ResponseApdu

end Proximity
