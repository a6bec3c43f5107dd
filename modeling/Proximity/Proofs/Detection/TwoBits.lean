import Proximity.Proofs.Crc.Period
import Proximity.Proofs.Frame.Residue

/-!
Two errors are caught in frames of up to 4095 bytes, since the period of the register is longer.
-/
namespace Proximity

namespace Crc

theorem iterate_shift_one_ne {m n : Nat} (hm : m < 32767) (hn : n < 32767) (h : m ≠ n) :
    Serial.shift^[m] 1#16 ≠ Serial.shift^[n] 1#16 := by
  rw [← minimalPeriod_shift_one] at hm hn
  exact fun heq => h (Function.iterate_injOn_Iio_minimalPeriod hm hn heq)

end Crc

namespace Block

/-- Two errors never make one intact frame into another. -/
theorem two_errors_detected {raw : Bytes} {block : Block} {p q : Nat} (h : decode raw = .ok block)
    (hlength : raw.length ≤ 4095) (hp : p < 8 * raw.length) (hq : q < 8 * raw.length)
    (hne : p ≠ q) :
    ∃ expected actual, decode ((raw.flip p).flip q) = .error (.crcMismatch expected actual) := by
  have hlong : 3 ≤ ((raw.flip p).flip q).length := by
    rw [Bytes.length_flip, Bytes.length_flip]
    exact length_of_decode_eq_ok h
  -- Each error leaves a single bit behind, shifted once for every bit from it to the end.
  have hregister : Crc.register ((raw.flip p).flip q) =
      Crc.Serial.shift^[8 * raw.length - p] 1#16 ^^^
        Crc.Serial.shift^[8 * raw.length - q] 1#16 := by
    rw [Crc.register_flip (by rwa [Bytes.length_flip]), Crc.register_flip hp, Bytes.length_flip,
      register_of_decode_eq_ok h, BitVec.zero_xor]
  apply mismatch_of_register_ne_zero hlong
  rw [hregister, Ne, BitVec.xor_eq_zero_iff]
  exact Crc.iterate_shift_one_ne (by omega) (by omega) (by omega)

theorem two_errors_detected_at_ends :
    let raw : Bytes := [0x02, 0x90, 0x00, 0xF1, 0x09]
    decode raw = .ok (.information 0x02 [0x90, 0x00]) ∧ raw.length ≤ 4095 ∧ 0 < 8 * raw.length ∧
      39 < 8 * raw.length ∧
      ∃ expected actual,
        decode [0x03, 0x90, 0x00, 0xF1, 0x89] = .error (.crcMismatch expected actual) := by
  intro raw
  have hraw : decode raw = .ok (.information 0x02 [0x90, 0x00]) := by decide
  have hlength : raw.length ≤ 4095 := by decide
  have hfirst : 0 < 8 * raw.length := by decide
  have hlast : 39 < 8 * raw.length := by decide
  exact ⟨hraw, hlength, hfirst, hlast,
    two_errors_detected hraw hlength hfirst hlast (by decide)⟩

end Block

end Proximity
