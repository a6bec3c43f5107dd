import Proximity.Proofs.Crc.Residue

/-! One byte at a time or one bit at a time, the checksum is the same. -/
namespace Proximity.Crc

theorem Serial.intake_step : Intake Serial.step := by
  intro r s a b
  have hmixed : r ^^^ s ^^^ (a ^^^ b).toBitVec.setWidth 16 =
      (r ^^^ a.toBitVec.setWidth 16) ^^^ (s ^^^ b.toBitVec.setWidth 16) := by
    rw [UInt8.toBitVec_xor, BitVec.setWidth_xor]
    ac_rfl
  unfold Serial.step
  rw [hmixed, xorLinear_shift.iterate 8]

theorem step_eq_serial : step = Serial.step :=
  intake_step.eq_of_eq_twoPow Serial.intake_step (by decide) (by decide)

theorem register_eq_serial (bytes : Bytes) : register bytes = Serial.register bytes := by
  rw [register, Serial.register, step_eq_serial, preset]

/-- The checksum is the register that is left when all bytes are shifted out, low byte first. -/
theorem trailer_serial (bytes : Bytes) :
    ∃ low high : UInt8, (trailer bytes).toBytes = [low, high] ∧
      low.toNat + 256 * high.toNat = (Serial.register bytes).toNat := by
  refine ⟨(trailer bytes).low, (trailer bytes).high, rfl, ?_⟩
  rw [← register_eq_serial]
  exact Trailer.toNat_ofRegister (register bytes)

/-- The command that halts a card. -/
example : Serial.register [0x50, 0x00] = 0xCD57#16 := by cbv

end Proximity.Crc
