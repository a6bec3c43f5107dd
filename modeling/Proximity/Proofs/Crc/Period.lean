import Proximity.Proofs.Crc.Linear
import Mathlib.Data.List.Iterate
import Mathlib.Dynamics.PeriodicPts.Lemmas
import Mathlib.Tactic.NormNum.Prime

/-!
How long a single bit goes round in the register. Each shift multiplies by `x` modulo the generator,
with the top bit for one.
-/
namespace Proximity.Crc
open Serial (shift)

/-- The polynomial one. Bit `i` stands for `x` to the power of `15 - i`. -/
def unit : BitVec 16 := 0x8000#16

/-- The square of a polynomial, modulo the generator. -/
def square (r : BitVec 16) : BitVec 16 :=
  select (fun i => shift^[2 * (15 - i)] unit) r

theorem square_twoPow {i : Nat} (hi : i < 16) :
    square (.twoPow 16 i) = shift^[2 * (15 - i)] unit :=
  select_twoPow _ hi

theorem square_shift (r : BitVec 16) : square (shift r) = shift (shift (square r)) := by
  have hsquare : XorLinear square := xorLinear_select _
  have h : square ∘ shift = shift ∘ shift ∘ square := by
    apply (hsquare.comp xorLinear_shift).eq_of_eq_twoPow
      (xorLinear_shift.comp (xorLinear_shift.comp hsquare))
    intro i hi
    simp only [Function.comp_apply]
    cases i with
    | zero => cbv
    | succ i =>
      have htwice : 2 * (15 - i) = 2 * (15 - (i + 1)) + 1 + 1 := by omega
      rw [shift_twoPow hi, square_twoPow (Nat.lt_of_succ_lt hi), square_twoPow hi, htwice,
        Function.iterate_succ_apply', Function.iterate_succ_apply']
  exact congrFun h r

theorem square_iterate_shift (n : Nat) : square (shift^[n] unit) = shift^[2 * n] unit := by
  induction n with
  | zero => cbv
  | succ n ih =>
    rw [Function.iterate_succ_apply', square_shift, ih, Nat.mul_succ, Function.iterate_succ_apply',
      Function.iterate_succ_apply']

def exponent : List Bool → Nat
  | [] => 0
  | digit :: digits => 2 * exponent digits + digit.toNat

def power : List Bool → BitVec 16
  | [] => unit
  | digit :: digits => (bif digit then shift else id) (square (power digits))

theorem iterate_shift_unit (digits : List Bool) :
    shift^[exponent digits] unit = power digits := by
  induction digits with
  | nil => rfl
  | cons digit digits ih =>
    rw [exponent, power, ← ih, square_iterate_shift]
    cases digit with
    | false => rfl
    | true => exact Function.iterate_succ_apply' shift _ unit

theorem isPeriodicPt_shift_unit_iff (digits : List Bool) :
    Function.IsPeriodicPt shift (exponent digits) unit ↔ power digits = unit := by
  rw [← iterate_shift_unit]
  rfl

theorem isPeriodicPt_shift_unit : Function.IsPeriodicPt shift 32767 unit :=
  (isPeriodicPt_shift_unit_iff (List.replicate 15 true)).mpr (by cbv)

/-- A prime divides the period when its share of the round is too short. -/
theorem dvd_minimalPeriod_shift_unit {p : Nat} (hp : p.Prime) (digits : List Bool)
    (hround : p * exponent digits = 32767) (hpower : power digits ≠ unit) :
    p ∣ Function.minimalPeriod shift unit := by
  by_contra hnot
  have hcoprime : (Function.minimalPeriod shift unit).Coprime p :=
    ((Nat.Prime.coprime_iff_not_dvd hp).mpr hnot).symm
  have hdvd : Function.minimalPeriod shift unit ∣ p * exponent digits := by
    rw [hround]
    exact isPeriodicPt_shift_unit.minimalPeriod_dvd
  have hperiod : Function.IsPeriodicPt shift (exponent digits) unit :=
    Function.isPeriodicPt_iff_minimalPeriod_dvd.mpr (hcoprime.dvd_of_dvd_mul_left hdvd)
  exact hpower ((isPeriodicPt_shift_unit_iff digits).mp hperiod)

/-- The generator has a primitive factor of degree fifteen. -/
theorem minimalPeriod_shift_unit : Function.minimalPeriod shift unit = 32767 := by
  have h7 : 7 ∣ Function.minimalPeriod shift unit :=
    dvd_minimalPeriod_shift_unit (by norm_num)
      [true, false, false, true, false, false, true, false, false, true, false, false, true] rfl
      (by cbv)
  have h31 : 31 ∣ Function.minimalPeriod shift unit :=
    dvd_minimalPeriod_shift_unit (by norm_num)
      [true, false, false, false, false, true, false, false, false, false, true] rfl
      (by cbv)
  have h151 : 151 ∣ Function.minimalPeriod shift unit :=
    dvd_minimalPeriod_shift_unit (by norm_num)
      [true, false, false, true, true, false, true, true] rfl (by cbv)
  have h217 : 7 * 31 ∣ Function.minimalPeriod shift unit :=
    Nat.Coprime.mul_dvd_of_dvd_of_dvd (by decide) h7 h31
  have hall : 7 * 31 * 151 ∣ Function.minimalPeriod shift unit :=
    Nat.Coprime.mul_dvd_of_dvd_of_dvd (by decide) h217 h151
  exact Nat.dvd_antisymm isPeriodicPt_shift_unit.minimalPeriod_dvd hall

theorem minimalPeriod_shift_one : Function.minimalPeriod shift 1#16 = 32767 := by
  have hone : shift^[15] unit = 1#16 := by cbv
  have hperiodic : unit ∈ Function.periodicPts shift :=
    ⟨32767, by norm_num, isPeriodicPt_shift_unit⟩
  rw [← hone, Function.minimalPeriod_apply_iterate hperiodic, minimalPeriod_shift_unit]

end Proximity.Crc
