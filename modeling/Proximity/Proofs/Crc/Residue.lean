import Proximity.Proofs.Crc.Stream

/-! What closes a string: its checksum and no other two bytes bring the register to zero. -/
namespace Proximity.Crc
open Serial (shift)

theorem run_injective (bits : List Bool) : Function.Injective (run · bits) := by
  intro r s h
  have hrun : ∀ x, run x bits = run 0#16 bits ^^^ shift^[bits.length] x := fun x => by
    rw [← run_xor, BitVec.zero_xor]
  simp only [hrun r, hrun s, BitVec.xor_right_inj] at h
  exact shift_injective.iterate _ h

theorem step_injective (b : UInt8) : Function.Injective (step · b) := by
  intro r s h
  simp only [step_eq_run] at h
  exact run_injective _ h

theorem Trailer.toNat_ofRegister (r : BitVec 16) :
    (ofRegister r).low.toNat + 256 * (ofRegister r).high.toNat = r.toNat := by
  have hlt := r.isLt
  simp only [ofRegister, UInt8.toNat_ofBitVec, BitVec.toNat_setWidth, BitVec.toNat_ushiftRight,
    Nat.shiftRight_eq_div_pow]
  omega

theorem Trailer.toBytes_ofRegister_eq_zero_iff {r : BitVec 16} :
    (ofRegister r).toBytes = [0, 0] ↔ r = 0#16 := by
  constructor
  · intro h
    obtain ⟨hlow, hhigh⟩ : (ofRegister r).low = 0 ∧ (ofRegister r).high = 0 := by
      simpa [toBytes] using h
    have hr := toNat_ofRegister r
    rw [hlow, hhigh] at hr
    exact BitVec.eq_of_toNat_eq hr.symm
  · rintro rfl
    rfl

theorem Trailer.exists_ofRegister_eq (t : Trailer) : ∃ r, ofRegister r = t := by
  refine ⟨t.high.toBitVec ++ t.low.toBitVec, ?_⟩
  have hlow : (t.high.toBitVec ++ t.low.toBitVec).setWidth 8 = t.low.toBitVec :=
    BitVec.setWidth_append_eq_right
  have hhigh : ((t.high.toBitVec ++ t.low.toBitVec) >>> 8).setWidth 8 = t.high.toBitVec := by
    apply BitVec.eq_of_getLsbD_eq
    intro i hi
    rw [BitVec.getLsbD_setWidth, BitVec.getLsbD_ushiftRight, BitVec.getLsbD_append]
    simp [hi]
  rw [ofRegister, hlow, hhigh]

/-- Its own low byte leaves of a register the high one, and that leaves nothing. -/
theorem step_step_ofRegister (r : BitVec 16) :
    step (step r (Trailer.ofRegister r).low) (Trailer.ofRegister r).high = 0#16 := by
  have hlow : step r (Trailer.ofRegister r).low = r >>> 8 := by
    simp [step, Trailer.ofRegister]
  have hgone : r >>> 8 >>> 8 = 0#16 := by
    rw [← BitVec.shiftRight_add]
    exact BitVec.ushiftRight_eq_zero (Nat.le_refl 16)
  rw [hlow]
  simp [step, Trailer.ofRegister, hgone]

theorem register_append (bytes : Bytes) (t : Trailer) :
    register (bytes ++ t.toBytes) = step (step (register bytes) t.low) t.high := by
  rw [register, List.foldl_append]
  rfl

theorem register_append_eq_zero_iff (bytes : Bytes) (t : Trailer) :
    register (bytes ++ t.toBytes) = 0#16 ↔ t = trailer bytes := by
  rw [register_append]
  constructor
  · intro h
    obtain ⟨r, rfl⟩ := t.exists_ofRegister_eq
    rw [← step_step_ofRegister r] at h
    have hr : register bytes = r := step_injective _ (step_injective _ h)
    rw [trailer, hr]
  · rintro rfl
    exact step_step_ofRegister _

/-- A string that ends in its own checksum has brought the register to zero. -/
theorem register_append_self (bytes : Bytes) : register (append bytes) = 0#16 :=
  (register_append_eq_zero_iff bytes (trailer bytes)).mpr rfl

end Proximity.Crc
