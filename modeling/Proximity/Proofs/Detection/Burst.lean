import Proximity.Proofs.Frame.Residue

/-! Bursts of errors are caught: the rest of a burst is too short to drive a set bit out. -/
namespace Proximity

namespace Crc

theorem exists_getLsbD_feed {r : BitVec 16} {bit : Bool} {i : Nat} (h : r.getLsbD i = true)
    (hbit : i = 0 → bit = false) : ∃ j, i - 1 ≤ j ∧ (feed r bit).getLsbD j = true := by
  apply exists_getLsbD_shift
  rw [BitVec.getLsbD_xor, h]
  cases i with
  | zero =>
    rw [hbit rfl]
    rfl
  | succ i => simp [BitVec.getLsbD_setWidth]

/-- A set bit outlasts a stream whose own set bits all come before it could reach the bottom. -/
theorem run_ne_zero_of_getLsbD {r : BitVec 16} {bits : List Bool} {i : Nat}
    (h : r.getLsbD i = true) (hwindow : ∀ p, bits[p]? = some true → p < i) :
    run r bits ≠ 0#16 := by
  induction bits generalizing r i with
  | nil =>
    intro hzero
    rw [run, List.foldl_nil] at hzero
    rw [hzero, BitVec.getLsbD_zero] at h
    cases h
  | cons bit bits ih =>
    have hbit : i = 0 → bit = false := by
      rintro rfl
      cases bit with
      | false => rfl
      | true => exact absurd (hwindow 0 rfl) (Nat.lt_irrefl 0)
    obtain ⟨j, hj, hset⟩ := exists_getLsbD_feed h hbit
    -- The set bit moves down by one place at most, while the stream gets one bit shorter.
    refine ih hset fun p hp => ?_
    have hlt := hwindow (p + 1) hp
    omega

theorem residue_ne_zero_of_burst {bits : List Bool} {start : Nat} (hset : true ∈ bits)
    (hwindow : ∀ p, bits[p]? = some true → start ≤ p ∧ p < start + 16) : residue bits ≠ 0#16 := by
  induction bits generalizing start with
  | nil => cases hset
  | cons bit bits ih =>
    cases bit with
    | false =>
      have htail : true ∈ bits := by simpa using hset
      have hnext : ∀ p, bits[p]? = some true → start - 1 ≤ p ∧ p < start - 1 + 16 := by
        intro p hp
        have hplace := hwindow (p + 1) hp
        omega
      have hfeed : feed 0#16 false = 0#16 := by decide
      rw [residue, run, List.foldl_cons, hfeed]
      exact ih htail hnext
    | true =>
      have hfirst : start = 0 := Nat.le_zero.mp (hwindow 0 rfl).1
      have hnext : ∀ p, bits[p]? = some true → p < 15 := by
        intro p hp
        have hplace := hwindow (p + 1) hp
        omega
      have htop : (feed 0#16 true).getLsbD 15 = true := by decide
      rw [residue, run, List.foldl_cons]
      exact run_ne_zero_of_getLsbD htop hnext

end Crc

namespace Block

/-- Errors that keep within sixteen bits in a row never make one intact frame into another. -/
theorem burst_detected {raw errors : Bytes} {block : Block} {start : Nat}
    (h : decode raw = .ok block) (hlength : errors.length = raw.length)
    (hset : true ∈ errors.bits)
    (hwindow : ∀ p, errors.bits[p]? = some true → start ≤ p ∧ p < start + 16) :
    ∃ expected actual, decode (raw.xor errors) = .error (.crcMismatch expected actual) :=
  mismatch_of_residue_ne_zero h hlength (Crc.residue_ne_zero_of_burst hset hwindow)

theorem burst_detected_across_bytes :
    let raw : Bytes := [0x02, 0x90, 0x00, 0xF1, 0x09]
    let errors : Bytes := [0x80, 0xFF, 0x7F, 0x00, 0x00]
    decode raw = .ok (.information 0x02 [0x90, 0x00]) ∧ true ∈ errors.bits ∧
      (∀ p, errors.bits[p]? = some true → 7 ≤ p ∧ p < 23) ∧
      ∃ expected actual,
        decode [0x82, 0x6F, 0x7F, 0xF1, 0x09] = .error (.crcMismatch expected actual) := by
  intro raw errors
  have hraw : decode raw = .ok (.information 0x02 [0x90, 0x00]) := by decide
  have hlength : errors.length = raw.length := rfl
  have hset : true ∈ errors.bits := by decide
  have hwindow : ∀ p, errors.bits[p]? = some true → 7 ≤ p ∧ p < 23 := by
    intro p hp
    have hall : ∀ p < errors.bits.length, errors.bits[p]? = some true → 7 ≤ p ∧ p < 23 := by decide
    exact hall p (List.getElem?_eq_some_iff.mp hp).1 hp
  exact ⟨hraw, hset, hwindow, burst_detected hraw hlength hset hwindow⟩

end Block

end Proximity
