import Proximity.WaitingTime
import Mathlib.Order.MinMax

/-! The wait that an extension grants, in numbers. -/
namespace Proximity.WaitingTime

theorem toNat_and_multiplierMask (wtxm : UInt8) :
    (wtxm &&& multiplierMask).toNat = wtxm.toNat % 64 := by
  rw [UInt8.toNat_and]
  exact Nat.and_two_pow_sub_one_eq_mod _ 6

theorem toNat_multiplier (wtxm : UInt8) :
    (multiplier wtxm).toNat = max 1 (min 59 (wtxm.toNat % 64)) := by
  rw [multiplier, UInt8.toNat_max, UInt8.toNat_min, toNat_and_multiplierMask]
  rfl

theorem toNat_saturatingMul (a b : UInt64) :
    (saturatingMul a b).toNat = min (a.toNat * b.toNat) (UInt64.size - 1) := by
  have hfits : min (a.toNat * b.toNat) (UInt64.size - 1) < UInt64.size :=
    Nat.lt_of_le_of_lt (Nat.min_le_right _ _) (by decide)
  exact UInt64.toNat_ofNat_of_lt' hfits

/-- A product beyond the largest word is beyond the longest wait as well. -/
theorem toNat_extended (base : UInt64) (wtxm : UInt8) :
    (extended base wtxm).toNat = min (base.toNat * max 1 (min 59 (wtxm.toNat % 64))) 4949 := by
  have hlongest : longest.toNat = 4949 := rfl
  have hbeyond : min (UInt64.size - 1) 4949 = 4949 := rfl
  rw [extended, UInt64.toNat_min, toNat_saturatingMul, UInt8.toNat_toUInt64, toNat_multiplier,
    hlongest, Nat.min_assoc, hbeyond]

theorem extended_le_longest (base : UInt64) (wtxm : UInt8) : (extended base wtxm).toNat ≤ 4949 := by
  rw [toNat_extended]
  exact Nat.min_le_right _ _

theorem extended_pos {base : UInt64} (h : base ≠ 0) (wtxm : UInt8) :
    1 ≤ (extended base wtxm).toNat := by
  have hbase : 0 < base.toNat := Nat.pos_of_ne_zero fun hzero => h (UInt64.toNat_inj.mp hzero)
  have hproduct : 0 < base.toNat * max 1 (min 59 (wtxm.toNat % 64)) :=
    Nat.mul_pos hbase (by omega)
  rw [toNat_extended]
  omega

theorem extended_le_extended {base base' : UInt64} {wtxm wtxm' : UInt8} (hbase : base ≤ base')
    (hwtxm : wtxm.toNat % 64 ≤ wtxm'.toNat % 64) : extended base wtxm ≤ extended base' wtxm' := by
  have hfactor : max 1 (min 59 (wtxm.toNat % 64)) ≤ max 1 (min 59 (wtxm'.toNat % 64)) := by omega
  have hproduct := Nat.mul_le_mul (UInt64.le_iff_toNat_le.mp hbase) hfactor
  rw [UInt64.le_iff_toNat_le, toNat_extended, toNat_extended]
  omega

theorem extended_congr (base : UInt64) {wtxm wtxm' : UInt8}
    (h : wtxm &&& multiplierMask = wtxm' &&& multiplierMask) :
    extended base wtxm = extended base wtxm' := by
  rw [extended, extended, multiplier, multiplier, h]

/-- The ordinary wait is stretched, or left as it is, unless it is longer than any wait that is granted. -/
theorem le_extended_iff {base : UInt64} {wtxm : UInt8} :
    base ≤ extended base wtxm ↔ base.toNat ≤ 4949 := by
  have hstretched : base.toNat ≤ base.toNat * max 1 (min 59 (wtxm.toNat % 64)) :=
    Nat.le_mul_of_pos_right _ (by omega)
  rw [UInt64.le_iff_toNat_le, toNat_extended]
  omega

end Proximity.WaitingTime
