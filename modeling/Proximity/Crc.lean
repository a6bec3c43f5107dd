import Proximity.Bytes

/-! The two-byte checksum that closes every frame, taken one byte at a time. -/
namespace Proximity.Crc

def preset : BitVec 16 := 0x6363#16

/-- The register after one more byte. Eight shifts of the low half are one exclusive or of four
copies of it. -/
def step (register : BitVec 16) (b : UInt8) : BitVec 16 :=
  let mixed := b.toBitVec ^^^ register.setWidth 8
  let folded := (mixed ^^^ mixed <<< 4).setWidth 16
  register >>> 8 ^^^ folded <<< 8 ^^^ folded <<< 3 ^^^ folded >>> 4

def register (bytes : Bytes) : BitVec 16 :=
  bytes.foldl step preset

/-- The two bytes that close a frame, in wire order. -/
structure Trailer where
  low : UInt8
  high : UInt8
deriving DecidableEq

def Trailer.ofRegister (r : BitVec 16) : Trailer where
  low := .ofBitVec (r.setWidth 8)
  high := .ofBitVec ((r >>> 8).setWidth 8)

def Trailer.toBytes (t : Trailer) : Bytes :=
  [t.low, t.high]

def trailer (bytes : Bytes) : Trailer :=
  .ofRegister (register bytes)

def append (bytes : Bytes) : Bytes :=
  bytes ++ (trailer bytes).toBytes

end Proximity.Crc
