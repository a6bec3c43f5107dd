import Proximity.Bytes

/-! The checksum register one bit at a time, lowest bit first. -/
namespace Proximity.Crc.Serial

/-- Shifts one bit out. A set bit leaves the reflected polynomial behind. -/
def shift (register : BitVec 16) : BitVec 16 :=
  if register.getLsbD 0 then register >>> 1 ^^^ 0x8408#16 else register >>> 1

def step (register : BitVec 16) (b : UInt8) : BitVec 16 :=
  Nat.repeat shift 8 (register ^^^ b.toBitVec.setWidth 16)

def register (bytes : Bytes) : BitVec 16 :=
  bytes.foldl step 0x6363#16

end Proximity.Crc.Serial
