import Proximity.Bytes

/-! Text as bytes, and the text that two bytes spell on their own. -/
namespace Proximity.Utf8

def encode (text : String) : Bytes :=
  text.toList.flatMap String.utf8EncodeChar

/-- Two bytes are a text when both are ASCII or when they are one character of two bytes. The lead
bytes `C0` and `C1` would spell ASCII at double length and are refused. -/
def decodePair? (first second : UInt8) : Option String :=
  if first < 0x80 then
    if second < 0x80 then
      some (String.ofList [Char.ofNat first.toNat, Char.ofNat second.toNat])
    else none
  else if 0xC2 ≤ first ∧ first ≤ 0xDF ∧ 0x80 ≤ second ∧ second ≤ 0xBF then
    some (String.singleton (Char.ofNat ((first.toNat - 0xC0) * 64 + (second.toNat - 0x80))))
  else none

end Proximity.Utf8
