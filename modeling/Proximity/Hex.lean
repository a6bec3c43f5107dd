import Proximity.Utf8

/-! Bytes as hexadecimal text, in a compact and a spaced form. -/
namespace Proximity.Hex

inductive Letters where
  | lower
  | upper

def digit (letters : Letters) (n : Nat) : Char :=
  if n < 10 then Char.ofNat ('0'.toNat + n)
  else match letters with
    | .lower => Char.ofNat ('a'.toNat + (n - 10))
    | .upper => Char.ofNat ('A'.toNat + (n - 10))

/-- The two digits of a byte, high half first. -/
def pair (letters : Letters) (b : UInt8) : List Char :=
  [digit letters (b.toNat / 16), digit letters (b.toNat % 16)]

/-- Small letters and no separators. -/
def compact (bytes : Bytes) : String :=
  String.ofList (bytes.flatMap (pair .lower))

/-- Capital letters and one space between bytes. -/
def spaced (bytes : Bytes) : String :=
  String.ofList ([' '].intercalate (bytes.map (pair .upper)))

/-- One byte behind `0x`. -/
def literal (b : UInt8) : String :=
  "0x" ++ compact [b]

inductive Fault where
  | oddLength
  | nonText
  | badPair (text : String)
deriving DecidableEq

def Fault.message : Fault → String
  | .oddLength => "odd number of digits"
  | .nonText => "non-ascii input"
  | .badPair text => s!"'{text}': invalid digit found in string"

/-- Space, tab, line feed, form feed and carriage return. -/
def isBlank (b : UInt8) : Bool :=
  b == 0x20 || b == 0x09 || b == 0x0A || b == 0x0C || b == 0x0D

def digitValue? (b : UInt8) : Option UInt8 :=
  if 0x30 ≤ b ∧ b ≤ 0x39 then some (b - 0x30)
  else if 0x41 ≤ b ∧ b ≤ 0x46 then some (b - 0x37)
  else if 0x61 ≤ b ∧ b ≤ 0x66 then some (b - 0x57)
  else none

/-- The number that two characters write: two digits, or a plus sign and one digit. -/
def pairValue? (first second : UInt8) : Option UInt8 := do
  let low ← digitValue? second
  if first = 0x2B then return low
  let high ← digitValue? first
  return high * 16 + low

def readPair (first second : UInt8) : Except Fault UInt8 :=
  match Utf8.decodePair? first second with
  | none => .error .nonText
  | some text =>
    match pairValue? first second with
    | some b => .ok b
    | none => .error (.badPair text)

/-- One byte for each two digits. The first pair that fails decides the error. -/
def readPairs : Bytes → Except Fault Bytes
  | [] => .ok []
  | [_] => .error .oddLength
  | first :: second :: rest => do
    let b ← readPair first second
    return b :: (← readPairs rest)

def digits (text : String) : Bytes :=
  (Utf8.encode text).filter (!isBlank ·)

/-- An odd number of digits is an error of its own, whatever the digits are. -/
def parse (text : String) : Except Fault Bytes :=
  if (digits text).length % 2 = 1 then .error .oddLength else readPairs (digits text)

end Proximity.Hex
