import Proximity.Proofs.Bytes.Bits
import Proximity.Proofs.Crc.Linear
import Mathlib.Logic.Function.Iterate

/-! The checksum register fed with the bits of a string in wire order. -/
namespace Proximity.Crc
open Serial (shift)

def feed (r : BitVec 16) (bit : Bool) : BitVec 16 :=
  shift (r ^^^ (BitVec.ofBool bit).setWidth 16)

def run (r : BitVec 16) (bits : List Bool) : BitVec 16 :=
  bits.foldl feed r

/-- What a string of bits leaves behind on its own, without the preset. -/
def residue (bits : List Bool) : BitVec 16 :=
  run 0#16 bits

theorem run_append (r : BitVec 16) (bits more : List Bool) :
    run r (bits ++ more) = run (run r bits) more :=
  List.foldl_append

theorem feed_xor (r s : BitVec 16) (a b : Bool) :
    feed (r ^^^ s) (a ^^ b) = feed r a ^^^ feed s b := by
  unfold feed
  rw [← xorLinear_shift, ← BitVec.ofBool_xor_ofBool, BitVec.setWidth_xor]
  congr 1
  ac_rfl

theorem feed_false (r : BitVec 16) : feed r false = shift r := by
  unfold feed
  exact congrArg shift BitVec.xor_zero

theorem run_zipWith_xor (r s : BitVec 16) {as bs : List Bool} (h : as.length = bs.length) :
    run (r ^^^ s) (List.zipWith Bool.xor as bs) = run r as ^^^ run s bs := by
  induction as generalizing r s bs with
  | nil =>
    cases bs with
    | nil => rfl
    | cons b bs => cases h
  | cons a as ih =>
    cases bs with
    | nil => cases h
    | cons b bs =>
      rw [List.zipWith_cons_cons, run, List.foldl_cons, feed_xor]
      exact ih _ _ (Nat.succ.inj h)

/-- A difference between two registers is shifted once for each bit, whatever the bits are. -/
theorem run_xor (r s : BitVec 16) (bits : List Bool) :
    run (r ^^^ s) bits = run r bits ^^^ shift^[bits.length] s := by
  induction bits generalizing r s with
  | nil => rfl
  | cons b bits ih =>
    have hfeed : feed (r ^^^ s) b = feed r b ^^^ shift s := by
      rw [← feed_false, ← feed_xor, Bool.xor_false]
    rw [run, List.foldl_cons, hfeed]
    exact ih _ _

theorem intake_run : Intake fun r b => run r (Bytes.bitsOf b) := by
  intro r s a b
  simp only [Bytes.bitsOf_xor]
  exact run_zipWith_xor r s (by rw [Bytes.length_bitsOf, Bytes.length_bitsOf])

theorem step_eq_run (r : BitVec 16) (b : UInt8) : step r b = run r (Bytes.bitsOf b) := by
  have h := intake_step.eq_of_eq_twoPow intake_run (by decide) (by decide)
  exact congrFun (congrFun h r) b

theorem foldl_step_eq_run (r : BitVec 16) (bytes : Bytes) :
    bytes.foldl step r = run r bytes.bits := by
  induction bytes generalizing r with
  | nil => rfl
  | cons b bytes ih =>
    rw [List.foldl_cons, ih, step_eq_run, Bytes.bits_cons, run_append]

theorem register_eq_run (bytes : Bytes) : register bytes = run preset bytes.bits :=
  foldl_step_eq_run preset bytes

/-- Errors laid over a string add their residue to the register. -/
theorem register_xor {bytes errors : Bytes} (h : errors.length = bytes.length) :
    register (bytes.xor errors) = register bytes ^^^ residue errors.bits := by
  have hbits : bytes.bits.length = errors.bits.length := by
    rw [Bytes.length_bits, Bytes.length_bits, h]
  rw [register_eq_run, register_eq_run, residue, Bytes.bits_xor h.symm, ← run_zipWith_xor _ _ hbits,
    BitVec.xor_zero]

/-- An inverted bit leaves a set lowest bit behind, shifted once for each bit from it to the end. -/
theorem run_modify_not (r : BitVec 16) {bits : List Bool} {p : Nat} (hp : p < bits.length) :
    run r (bits.modify p not) = run r bits ^^^ shift^[bits.length - p] 1#16 := by
  induction bits generalizing r p with
  | nil => cases hp
  | cons b bits ih =>
    cases p with
    | zero =>
      have hfeed : feed r (!b) = feed r b ^^^ shift 1#16 := by
        rw [← Bool.xor_true, ← BitVec.xor_zero (x := r), feed_xor, BitVec.xor_zero]
        rfl
      rw [List.modify_zero_cons, run, List.foldl_cons, hfeed]
      exact run_xor _ _ bits
    | succ p =>
      rw [List.modify_succ_cons, run, List.foldl_cons, List.length_cons, Nat.add_sub_add_right]
      exact ih _ (Nat.lt_of_succ_lt_succ hp)

theorem register_flip {bytes : Bytes} {p : Nat} (hp : p < 8 * bytes.length) :
    register (bytes.flip p) = register bytes ^^^ shift^[8 * bytes.length - p] 1#16 := by
  rw [← Bytes.length_bits] at hp ⊢
  rw [register_eq_run, Bytes.bits_flip, run_modify_not _ hp, register_eq_run]

end Proximity.Crc
