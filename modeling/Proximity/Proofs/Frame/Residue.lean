import Proximity.Proofs.Crc.Residue
import Proximity.Proofs.Frame.Image

/-! A frame is intact when all of it together, trailer included, brings the register to zero. -/
namespace Proximity

theorem Frame.register_toBytes_eq_zero_iff (frame : Frame) :
    Crc.register frame.toBytes = 0#16 ↔ frame.trailer = frame.checksum :=
  Crc.register_append_eq_zero_iff (frame.pcb :: frame.inf) frame.trailer

namespace Block

variable {raw : Bytes} {block : Block}

theorem length_of_decode_eq_ok (h : decode raw = .ok block) : 3 ≤ raw.length := by
  obtain ⟨pcb, inf, rfl, -⟩ := decode_eq_ok_iff.mp h
  exact Frame.exists_toBytes_iff.mp ⟨_, rfl⟩

theorem register_of_decode_eq_ok (h : decode raw = .ok block) : Crc.register raw = 0#16 := by
  obtain ⟨pcb, inf, rfl, -⟩ := decode_eq_ok_iff.mp h
  exact Crc.register_append_self (pcb :: inf)

theorem mismatch_of_register_ne_zero (hlong : 3 ≤ raw.length) (h : Crc.register raw ≠ 0#16) :
    ∃ expected actual, decode raw = .error (.crcMismatch expected actual) := by
  obtain ⟨frame, rfl⟩ := Frame.exists_toBytes_iff.mpr hlong
  have hcheck : frame.trailer ≠ frame.checksum :=
    fun hc => h (frame.register_toBytes_eq_zero_iff.mpr hc)
  exact ⟨_, _, (decode_toBytes frame).trans (if_neg hcheck)⟩

theorem exists_decode_iff_register (hlong : 3 ≤ raw.length) :
    (∃ block, decode raw = .ok block) ↔ Crc.register raw = 0#16 := by
  constructor
  · rintro ⟨block, h⟩
    exact register_of_decode_eq_ok h
  · intro h
    obtain ⟨frame, rfl⟩ := Frame.exists_toBytes_iff.mpr hlong
    have hcheck : frame.trailer = frame.checksum := frame.register_toBytes_eq_zero_iff.mp h
    exact ⟨_, (decode_toBytes frame).trans (if_pos hcheck)⟩

variable {errors : Bytes}

theorem length_xor_of_decode (h : decode raw = .ok block) (hlength : errors.length = raw.length) :
    3 ≤ (raw.xor errors).length := by
  rw [Bytes.length_xor hlength.symm]
  exact length_of_decode_eq_ok h

/-- On an intact frame errors leave in the register what they leave there on their own. -/
theorem register_xor_of_decode (h : decode raw = .ok block)
    (hlength : errors.length = raw.length) :
    Crc.register (raw.xor errors) = Crc.residue errors.bits := by
  rw [Crc.register_xor hlength, register_of_decode_eq_ok h, BitVec.zero_xor]

/-- Errors on an intact frame are caught when they leave anything behind. -/
theorem mismatch_of_residue_ne_zero (h : decode raw = .ok block)
    (hlength : errors.length = raw.length) (hresidue : Crc.residue errors.bits ≠ 0#16) :
    ∃ expected actual, decode (raw.xor errors) = .error (.crcMismatch expected actual) := by
  apply mismatch_of_register_ne_zero (length_xor_of_decode h hlength)
  rw [register_xor_of_decode h hlength]
  exact hresidue

theorem exists_decode_xor_iff (h : decode raw = .ok block)
    (hlength : errors.length = raw.length) :
    (∃ other, decode (raw.xor errors) = .ok other) ↔ Crc.residue errors.bits = 0#16 := by
  rw [exists_decode_iff_register (length_xor_of_decode h hlength),
    register_xor_of_decode h hlength]

end Block

end Proximity
