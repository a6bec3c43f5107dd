import Proximity.Pcb
import Mathlib.Tactic.SplitIfs

/-! Control bytes as numbers: a kind of two bits on top, a selector of six below. -/
namespace Proximity.Pcb

theorem toNat_and_numberBit (pcb : Pcb) : (pcb &&& numberBit).toNat = pcb.toNat % 2 := by
  rw [UInt8.toNat_and]
  exact Nat.and_two_pow_sub_one_eq_mod _ 1

theorem toNat_and_selectorMask (pcb : Pcb) : (pcb &&& selectorMask).toNat = pcb.toNat % 64 := by
  rw [UInt8.toNat_and]
  exact Nat.and_two_pow_sub_one_eq_mod _ 6

theorem toNat_and_kindMask (pcb : Pcb) : (pcb &&& kindMask).toNat = pcb.toNat / 64 * 64 := by
  have hmask : kindMask.toNat = (2 ^ 2 - 1) * 2 ^ 6 := rfl
  rw [UInt8.toNat_and, hmask]
  apply Nat.eq_of_testBit_eq
  intro i
  rw [Nat.testBit_and, Nat.testBit_mul_two_pow, Nat.testBit_two_pow_sub_one]
  change _ = (pcb.toNat / 2 ^ 6 * 2 ^ 6).testBit i
  rw [Nat.testBit_mul_two_pow, Nat.testBit_div_two_pow]
  by_cases hlow : 6 ≤ i
  · rw [Nat.sub_add_cancel hlow]
    by_cases htop : i - 6 < 2
    · simp [hlow, htop]
    · -- There are no bits above the mask.
      have hnone : pcb.toNat.testBit i = false :=
        Nat.testBit_lt_two_pow (Nat.lt_of_lt_of_le pcb.toNat_lt
          (Nat.pow_le_pow_right Nat.two_pos (show 8 ≤ i by omega)))
      simp [hnone]
  · simp [hlow]

theorem and_kindMask_eq_iff {pcb bits : Pcb} :
    pcb &&& kindMask = bits ↔ pcb.toNat / 64 * 64 = bits.toNat := by
  rw [← toNat_and_kindMask, UInt8.toNat_inj]

theorem toNat_div_eq (pcb : Pcb) :
    pcb.toNat / 64 = match pcb.kind with
      | .information => 0
      | .reserved => 1
      | .acknowledge => 2
      | .supervisory => 3 := by
  have hlt : pcb.toNat < 256 := pcb.toNat_lt
  have hinformation : informationBits.toNat = 0 * 64 := rfl
  have hacknowledge : acknowledgeBits.toNat = 2 * 64 := rfl
  have hsupervisory : supervisoryBits.toNat = 3 * 64 := rfl
  simp only [kind, and_kindMask_eq_iff, hinformation, hacknowledge, hsupervisory]
  split_ifs <;> dsimp only <;> omega

theorem kind_eq_information_iff {pcb : Pcb} : pcb.kind = .information ↔ pcb.toNat / 64 = 0 := by
  rw [toNat_div_eq]
  cases pcb.kind <;> simp

theorem toNat_number (pcb : Pcb) : pcb.number.toNat = pcb.toNat % 2 := by
  rw [← toNat_and_numberBit, number]
  rcases Nat.mod_two_eq_zero_or_one pcb.toNat with h | h
  · have hbit : pcb &&& numberBit = 0 :=
      UInt8.toNat_inj.mp ((toNat_and_numberBit pcb).trans h)
    rw [hbit]
    rfl
  · have hbit : pcb &&& numberBit = 1 :=
      UInt8.toNat_inj.mp ((toNat_and_numberBit pcb).trans h)
    rw [hbit]
    rfl

/-- Among supervisory control bytes one alone is about extensions. -/
theorem isExtension_iff {pcb : Pcb} (h : pcb.kind = .supervisory) :
    pcb.isExtension = true ↔ pcb = extension := by
  have htop := pcb.toNat_div_eq
  rw [h] at htop
  rw [isExtension, beq_iff_eq, ← UInt8.toNat_inj, ← UInt8.toNat_inj, toNat_and_selectorMask]
  have hselector : extensionSelector.toNat = 50 := rfl
  have hextension : extension.toNat = 242 := rfl
  rw [hselector, hextension]
  dsimp only at htop
  omega

/-- A confirmation of deselection, without a card identifier or with one. -/
theorem isDeselect_iff {pcb : Pcb} : pcb.isDeselect = true ↔ pcb = 0xC2 ∨ pcb = 0xCA := by
  have hall : ∀ n < 256, (UInt8.ofNat n &&& ~~~cardIdBit == deselect) = true ↔
      UInt8.ofNat n = 0xC2 ∨ UInt8.ofNat n = 0xCA := by
    decide +kernel
  have h := hall pcb.toNat pcb.toNat_lt
  rw [UInt8.ofNat_toNat] at h
  exact h

end Proximity.Pcb
