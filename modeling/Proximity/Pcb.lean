import Proximity.BlockNumber

/-! The protocol control byte, the first byte of every frame. -/
namespace Proximity

abbrev Pcb := UInt8

/-- What the two top bits of a control byte select. -/
inductive Kind where
  | information
  | acknowledge
  | supervisory
  | reserved
deriving DecidableEq

def Kind.text : Kind → String
  | .information => "I-block"
  | .acknowledge => "R-block"
  | .supervisory => "S-block"
  | .reserved => "reserved"

namespace Pcb

def kindMask : Pcb := 0xC0
def informationBits : Pcb := 0x00
def acknowledgeBits : Pcb := 0x80
def supervisoryBits : Pcb := 0xC0

/-- An information block with number zero, not chained and without addresses. -/
def informationBase : Pcb := 0x02

def numberBit : Pcb := 0x01

/-- The bits below the kind, which tell supervisory blocks apart. -/
def selectorMask : Pcb := 0x3F

def extensionSelector : Pcb := 0x32
def extension : Pcb := 0xF2
def deselect : Pcb := 0xC2

/-- Set when a card identifier follows. -/
def cardIdBit : Pcb := 0x08

def kind (pcb : Pcb) : Kind :=
  if pcb &&& kindMask = informationBits then .information
  else if pcb &&& kindMask = acknowledgeBits then .acknowledge
  else if pcb &&& kindMask = supervisoryBits then .supervisory
  else .reserved

def number (pcb : Pcb) : BlockNumber :=
  .ofBool (pcb &&& numberBit != 0)

def isExtension (pcb : Pcb) : Bool :=
  pcb &&& selectorMask == extensionSelector

/-- Whether a supervisory block confirms deselection, with or without a card identifier. -/
def isDeselect (pcb : Pcb) : Bool :=
  pcb &&& ~~~cardIdBit == deselect

def information : BlockNumber → Pcb
  | .zero => informationBase
  | .one => informationBase ||| numberBit

end Pcb

end Proximity
