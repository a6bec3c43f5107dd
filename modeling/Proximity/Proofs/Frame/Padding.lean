import Proximity.Proofs.Frame.Residue

/-! Zeros behind a frame leave it intact, so that the checksum tells nothing of the length. -/
namespace Proximity

namespace Crc

theorem foldl_step_zeros_eq_zero_iff (r : BitVec 16) (n : Nat) :
    (Bytes.zeros n).foldl step r = 0#16 ↔ r = 0#16 := by
  induction n generalizing r with
  | zero => rfl
  | succ n ih =>
    have hstay : step 0#16 0 = 0#16 := by decide
    have hstep : step r 0 = 0#16 ↔ r = 0#16 := by
      constructor
      · intro h
        exact step_injective 0 (h.trans hstay.symm)
      · rintro rfl
        exact hstay
    change (Bytes.zeros n).foldl step (step r 0) = 0#16 ↔ r = 0#16
    rw [ih, hstep]

theorem register_append_zeros_eq_zero_iff (bytes : Bytes) (n : Nat) :
    register (bytes ++ Bytes.zeros n) = 0#16 ↔ register bytes = 0#16 := by
  rw [register, List.foldl_append]
  exact foldl_step_zeros_eq_zero_iff _ n

end Crc

namespace Frame

/-- Zeros behind an intact frame make another one, whose field goes on with the old checksum. -/
theorem sealed_append_zeros (pcb : Pcb) (inf : Bytes) (n : Nat) :
    (sealed pcb inf).toBytes ++ Bytes.zeros n =
      (sealed pcb (inf ++ ((Crc.trailer (pcb :: inf)).toBytes ++ Bytes.zeros n).take n)).toBytes := by
  have hlength : ((sealed pcb inf).toBytes ++ Bytes.zeros n).length = inf.length + n + 3 := by
    have hframe := (sealed pcb inf).length_toBytes
    rw [List.length_append, hframe, Bytes.length_zeros, overhead]
    change inf.length + 3 + n = _
    omega
  have hlong : 3 ≤ ((sealed pcb inf).toBytes ++ Bytes.zeros n).length := by omega
  obtain ⟨frame, hframe⟩ := exists_toBytes_iff.mpr hlong
  have hcheck : frame.trailer = frame.checksum := by
    rw [← register_toBytes_eq_zero_iff, ← hframe, Crc.register_append_zeros_eq_zero_iff]
    exact Crc.register_append_self (pcb :: inf)
  have hpcb : frame.pcb = pcb := (List.cons.inj hframe).1.symm
  have hinf : frame.inf = inf ++ ((Crc.trailer (pcb :: inf)).toBytes ++ Bytes.zeros n).take n := by
    rw [inf_eq_take_drop, ← hframe, hlength, Nat.add_sub_cancel]
    change (inf ++ (Crc.trailer (pcb :: inf)).toBytes ++ Bytes.zeros n).take _ = _
    rw [List.append_assoc, List.take_length_add_append]
  rw [hframe, eq_sealed hcheck, hpcb, hinf]

end Frame

namespace Block

/-- What a block is told apart by. -/
def kind : Block → Kind
  | information _ _ => .information
  | acknowledge _ => .acknowledge
  | supervisory _ _ => .supervisory
  | reserved _ => .reserved

theorem pcb_ofFrame (frame : Frame) : (ofFrame frame).pcb = frame.pcb := by
  unfold ofFrame
  cases frame.pcb.kind <;> rfl

theorem kind_ofFrame (frame : Frame) : (ofFrame frame).kind = frame.pcb.kind := by
  unfold ofFrame
  cases frame.pcb.kind <;> rfl

/-- A block of any kind keeps its control byte, and so its kind, when zeros follow. -/
theorem exists_decode_append_zeros {raw : Bytes} {block : Block} (h : decode raw = .ok block)
    (n : Nat) :
    ∃ later, decode (raw ++ Bytes.zeros n) = .ok later ∧ later.pcb = block.pcb ∧
      later.kind = block.kind := by
  obtain ⟨pcb, inf, rfl, rfl⟩ := decode_eq_ok_iff.mp h
  rw [Frame.sealed_append_zeros, decode_sealed]
  refine ⟨_, rfl, ?_, ?_⟩
  · rw [pcb_ofFrame, pcb_ofFrame]
    rfl
  · rw [kind_ofFrame, kind_ofFrame]
    rfl

/-- A frame is intact just when the checksum of all of it is zero. Zeros behind it change nothing of
that, nor its kind. -/
theorem intact_iff_checksum_zero {raw : Bytes} (long : 3 ≤ raw.length) :
    ((∃ block, decode raw = .ok block) ↔ (Crc.trailer raw).toBytes = [0, 0]) ∧
    ∀ n,
      ((∃ later, decode (raw ++ Bytes.zeros n) = .ok later) ↔ ∃ block, decode raw = .ok block) ∧
      ∀ block, decode raw = .ok block →
        ∃ later, decode (raw ++ Bytes.zeros n) = .ok later ∧ later.pcb = block.pcb ∧
          later.kind = block.kind := by
  refine ⟨?_, fun n => ⟨?_, fun block h => exists_decode_append_zeros h n⟩⟩
  · rw [exists_decode_iff_register long, Crc.trailer, Crc.Trailer.toBytes_ofRegister_eq_zero_iff]
  · have hlonger : 3 ≤ (raw ++ Bytes.zeros n).length := by
      rw [List.length_append]
      exact Nat.le_add_right_of_le long
    rw [exists_decode_iff_register hlonger, exists_decode_iff_register long,
      Crc.register_append_zeros_eq_zero_iff]

/-- The confirmation of a deselection, which has no field until two zeros follow it. -/
theorem intact_iff_checksum_zero_deselect :
    let raw : Bytes := [0xC2, 0xE0, 0xB4]
    3 ≤ raw.length ∧ decode raw = .ok (.supervisory 0xC2 []) ∧
      (Crc.trailer raw).toBytes = [0, 0] ∧
      decode (raw ++ Bytes.zeros 2) = .ok (.supervisory 0xC2 [0xE0, 0xB4]) ∧
      ∃ later, decode (raw ++ Bytes.zeros 2) = .ok later ∧ later.pcb = 0xC2 ∧
        later.kind = .supervisory := by
  intro raw
  have long : 3 ≤ raw.length := by decide
  have hraw : decode raw = .ok (.supervisory 0xC2 []) := by decide
  have hlater : decode (raw ++ Bytes.zeros 2) = .ok (.supervisory 0xC2 [0xE0, 0xB4]) := by decide
  obtain ⟨hintact, hzeros⟩ := intact_iff_checksum_zero long
  exact ⟨long, hraw, hintact.mp ⟨_, hraw⟩, hlater, (hzeros 2).2 _ hraw⟩

end Block

end Proximity
