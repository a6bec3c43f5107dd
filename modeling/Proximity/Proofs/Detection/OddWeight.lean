import Proximity.Proofs.Frame.Residue
import Mathlib.Algebra.Ring.Parity

/-!
An odd number of errors is caught: each turns the parity of the register, and nothing else does.
-/
namespace Proximity

namespace Crc

/-- One when an odd number of bits is set. -/
def parity (r : BitVec 16) : BitVec 1 :=
  select (fun _ => 1#1) r

theorem xorLinear_parity : XorLinear parity :=
  xorLinear_select _

theorem parity_shift (r : BitVec 16) : parity (Serial.shift r) = parity r := by
  -- A bit that falls out at the bottom comes back as three.
  have h : parity ∘ Serial.shift = parity :=
    (xorLinear_parity.comp xorLinear_shift).eq_of_eq_twoPow xorLinear_parity (by decide)
  exact congrFun h r

theorem parity_feed (r : BitVec 16) (bit : Bool) :
    parity (feed r bit) = parity r ^^^ .ofBool bit := by
  have hbit : parity ((BitVec.ofBool bit).setWidth 16) = .ofBool bit := by
    cases bit <;> decide
  rw [feed, parity_shift, xorLinear_parity, hbit]

/-- The parity counts the set bits that were fed. -/
theorem parity_run (r : BitVec 16) (bits : List Bool) :
    parity (run r bits) = parity r ^^^ .ofNat 1 (bits.count true) := by
  induction bits generalizing r with
  | nil => exact BitVec.xor_zero.symm
  | cons bit bits ih =>
    have hcount : BitVec.ofNat 1 ((bit :: bits).count true) =
        .ofBool bit ^^^ .ofNat 1 (bits.count true) := by
      cases bit with
      | false => simp
      | true =>
        rw [List.count_cons_self, BitVec.ofNat_add, BitVec.add_eq_xor, BitVec.xor_comm]
        rfl
    rw [run, List.foldl_cons]
    exact (ih _).trans (by rw [parity_feed, hcount, BitVec.xor_assoc])

theorem residue_ne_zero_of_odd {bits : List Bool} (hodd : Odd (bits.count true)) :
    residue bits ≠ 0#16 := by
  intro hzero
  have hparity := parity_run 0#16 bits
  rw [← residue, hzero, xorLinear_parity.map_zero, BitVec.zero_xor] at hparity
  have hcount := congrArg BitVec.toNat hparity
  rw [BitVec.toNat_ofNat, BitVec.toNat_ofNat, Nat.pow_one, Nat.odd_iff.mp hodd] at hcount
  cases hcount

end Crc

namespace Block

/-- An odd number of errors never makes one intact frame into another, however far apart they are. -/
theorem odd_errors_detected {raw errors : Bytes} {block : Block} (h : decode raw = .ok block)
    (hlength : errors.length = raw.length) (hodd : Odd (errors.bits.count true)) :
    ∃ expected actual, decode (raw.xor errors) = .error (.crcMismatch expected actual) :=
  mismatch_of_residue_ne_zero h hlength (Crc.residue_ne_zero_of_odd hodd)

theorem odd_errors_detected_five :
    let raw : Bytes := [0x02, 0x90, 0x00, 0xF1, 0x09]
    let errors : Bytes := [0x01, 0x00, 0x18, 0x02, 0x80]
    decode raw = .ok (.information 0x02 [0x90, 0x00]) ∧ errors.bits.count true = 5 ∧
      ∃ expected actual,
        decode [0x03, 0x90, 0x18, 0xF3, 0x89] = .error (.crcMismatch expected actual) := by
  intro raw errors
  have hraw : decode raw = .ok (.information 0x02 [0x90, 0x00]) := by decide
  have hlength : errors.length = raw.length := rfl
  have hfive : errors.bits.count true = 5 := by decide
  exact ⟨hraw, hfive, odd_errors_detected hraw hlength (by rw [hfive]; decide)⟩

end Block

end Proximity
