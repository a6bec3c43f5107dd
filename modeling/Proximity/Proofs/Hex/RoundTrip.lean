import Proximity.Hex
import Proximity.Proofs.Hex.Utf8
import Mathlib.Data.List.Basic

/-! Reading back the hexadecimal text that is written. -/
namespace Proximity

namespace Hex

def code (letters : Letters) (n : Nat) : UInt8 :=
  .ofNat (digit letters n).toNat

def codes (letters : Letters) (b : UInt8) : Bytes :=
  [code letters (b.toNat / 16), code letters (b.toNat % 16)]

/-- What is written for one digit is one byte, no blank and no sign, and reads as that digit. -/
structure Reads (c : Char) (code : UInt8) (n : Nat) : Prop where
  encode : String.utf8EncodeChar c = [code]
  ascii : code < 0x80
  blank : isBlank code = false
  sign : code ≠ 0x2B
  value : digitValue? code = some (.ofNat n)

theorem reads_digit (letters : Letters) {n : Nat} (h : n < 16) :
    Reads (digit letters n) (code letters n) n := by
  have hall : ∀ n < 16, String.utf8EncodeChar (digit letters n) = [code letters n] ∧
      code letters n < 0x80 ∧ isBlank (code letters n) = false ∧ code letters n ≠ 0x2B ∧
      digitValue? (code letters n) = some (.ofNat n) := by
    cases letters <;> decide
  obtain ⟨hencode, hascii, hblank, hsign, hvalue⟩ := hall n h
  exact ⟨hencode, hascii, hblank, hsign, hvalue⟩

theorem div_lt (b : UInt8) : b.toNat / 16 < 16 := by
  have := b.toNat_lt
  omega

theorem mod_lt (b : UInt8) : b.toNat % 16 < 16 := Nat.mod_lt _ (by decide)

theorem halves (b : UInt8) :
    UInt8.ofNat (b.toNat / 16) * 16 + UInt8.ofNat (b.toNat % 16) = b := by
  have hlt := b.toNat_lt
  have hdigits := Nat.div_add_mod b.toNat 16
  rw [← UInt8.toNat_inj]
  simp
  omega

theorem readPair_codes (letters : Letters) (b : UInt8) :
    readPair (code letters (b.toNat / 16)) (code letters (b.toNat % 16)) = .ok b := by
  have hhigh := reads_digit letters (div_lt b)
  have hlow := reads_digit letters (mod_lt b)
  rw [readPair, Utf8.decodePair?, if_pos hhigh.ascii, if_pos hlow.ascii]
  simp only [pairValue?, hhigh.value, hlow.value, hhigh.sign]
  simp [halves]

theorem readPairs_codes (letters : Letters) (bytes : Bytes) :
    readPairs (bytes.flatMap (codes letters)) = .ok bytes := by
  induction bytes with
  | nil => rfl
  | cons b bytes ih =>
    change readPairs (code _ _ :: code _ _ :: bytes.flatMap (codes letters)) = _
    rw [readPairs, readPair_codes, ih]
    rfl

theorem length_codes (letters : Letters) (bytes : Bytes) :
    (bytes.flatMap (codes letters)).length = 2 * bytes.length := by
  induction bytes with
  | nil => rfl
  | cons b bytes ih =>
    rw [List.flatMap_cons, List.length_append, ih, List.length_cons, codes]
    simp
    omega

theorem encode_pair (letters : Letters) (b : UInt8) :
    (pair letters b).flatMap String.utf8EncodeChar = codes letters b := by
  have hhigh := reads_digit letters (div_lt b)
  have hlow := reads_digit letters (mod_lt b)
  simp [pair, codes, hhigh.encode, hlow.encode]

theorem digits_pair (letters : Letters) (b : UInt8) :
    ((pair letters b).flatMap String.utf8EncodeChar).filter (!isBlank ·) = codes letters b := by
  have hhigh := reads_digit letters (div_lt b)
  have hlow := reads_digit letters (mod_lt b)
  rw [encode_pair]
  simp [codes, hhigh.blank, hlow.blank]

theorem parse_of_digits {text : String} {letters : Letters} {bytes : Bytes}
    (h : digits text = bytes.flatMap (codes letters)) : parse text = .ok bytes := by
  have heven : ¬(digits text).length % 2 = 1 := by
    rw [h, length_codes]
    omega
  rw [parse, if_neg heven, h, readPairs_codes]

theorem digits_spaced (bytes : Bytes) : digits (spaced bytes) = bytes.flatMap (codes .upper) := by
  have hblank : ([' '].flatMap String.utf8EncodeChar).filter (!isBlank ·) = [] := by decide
  rw [digits, spaced, Utf8.encode_ofList]
  induction bytes with
  | nil => rfl
  | cons b bytes ih =>
    cases bytes with
    | nil => simpa using digits_pair .upper b
    | cons b' bytes =>
      rw [List.map_cons] at ih
      rw [List.map_cons, List.map_cons, List.intercalate_cons_cons, List.flatMap_append,
        List.flatMap_append, List.filter_append, List.filter_append, digits_pair, hblank,
        List.append_nil, ih, ← List.flatMap_cons]

/-- The spaced form of any bytes reads as these bytes. -/
theorem parse_spaced (bytes : Bytes) : parse (spaced bytes) = .ok bytes :=
  parse_of_digits (digits_spaced bytes)

end Hex

end Proximity
