/-! How long a reader waits for an answer, in milliseconds. -/
namespace Proximity.WaitingTime

/-- The wait for an answer unless a configuration says otherwise. -/
def ordinary : UInt64 := 500

/-- The longest wait that the protocol knows, rounded up. -/
def longest : UInt64 := 4949

def multiplierMask : UInt8 := 0x3F

def maxMultiplier : UInt8 := 59

/-- The factor in a request for extension: its low six bits, kept between 1 and 59. -/
def multiplier (wtxm : UInt8) : UInt8 :=
  max 1 (min maxMultiplier (wtxm &&& multiplierMask))

def saturatingMul (a b : UInt64) : UInt64 :=
  .ofNat (min (a.toNat * b.toNat) (UInt64.size - 1))

/-- The wait that an extension grants, counted from the ordinary wait and never above `longest`. -/
def extended (base : UInt64) (wtxm : UInt8) : UInt64 :=
  min (saturatingMul base (multiplier wtxm).toUInt64) longest

end Proximity.WaitingTime
