import Proximity.Proofs.Frame.Residue

/-! Whether errors are caught is a matter of the errors alone. -/
namespace Proximity

namespace Crc

/-- Three strings laid over each other, and their presets with them, which together are one again. -/
theorem register_xor_xor {a b c : Bytes} (hab : a.length = b.length) (hbc : b.length = c.length) :
    register ((a.xor b).xor c) = register a ^^^ register b ^^^ register c := by
  have hpreset : preset ^^^ preset ^^^ preset = preset := by
    rw [BitVec.xor_self, BitVec.zero_xor]
  have hac : (a.xor b).length = c.length := by
    rw [Bytes.length_xor hab, hab, hbc]
  have hpair : a.bits.length = b.bits.length := by
    rw [Bytes.length_bits, Bytes.length_bits, hab]
  have hlast : (a.xor b).bits.length = c.bits.length := by
    rw [Bytes.length_bits, Bytes.length_bits, hac]
  calc
    register ((a.xor b).xor c) =
        run (preset ^^^ preset ^^^ preset) (List.zipWith Bool.xor (a.xor b).bits c.bits) := by
      rw [register_eq_run, Bytes.bits_xor hac, hpreset]
    _ = run (preset ^^^ preset) (a.xor b).bits ^^^ run preset c.bits :=
      run_zipWith_xor _ _ hlast
    _ = run preset a.bits ^^^ run preset b.bits ^^^ run preset c.bits := by
      rw [Bytes.bits_xor hab, run_zipWith_xor _ _ hpair]
    _ = register a ^^^ register b ^^^ register c := by
      rw [register_eq_run, register_eq_run, register_eq_run]

theorem Trailer.toBytes_ofRegister_xor (r s : BitVec 16) :
    (ofRegister (r ^^^ s)).toBytes = (ofRegister r).toBytes.xor (ofRegister s).toBytes := by
  have hlow : (ofRegister (r ^^^ s)).low = (ofRegister r).low ^^^ (ofRegister s).low := by
    simp only [ofRegister, BitVec.setWidth_xor, UInt8.ofBitVec_xor]
  have hhigh : (ofRegister (r ^^^ s)).high = (ofRegister r).high ^^^ (ofRegister s).high := by
    simp only [ofRegister, BitVec.ushiftRight_xor_distrib, BitVec.setWidth_xor, UInt8.ofBitVec_xor]
  rw [toBytes, hlow, hhigh]
  rfl

theorem toBytes_trailer_xor_xor {a b c : Bytes} (hab : a.length = b.length)
    (hbc : b.length = c.length) :
    (trailer ((a.xor b).xor c)).toBytes =
      ((trailer a).toBytes.xor (trailer b).toBytes).xor (trailer c).toBytes := by
  rw [trailer, register_xor_xor hab hbc, Trailer.toBytes_ofRegister_xor,
    Trailer.toBytes_ofRegister_xor]
  rfl

end Crc

namespace Block

/-- Errors that one intact frame hides are hidden by every other of its length. -/
theorem errors_alone_decide :
    (∀ a b c : Bytes, a.length = b.length → b.length = c.length →
      (Crc.trailer ((a.xor b).xor c)).toBytes =
        ((Crc.trailer a).toBytes.xor (Crc.trailer b).toBytes).xor (Crc.trailer c).toBytes) ∧
    ∀ (x y errors : Bytes) (first second : Block), decode x = .ok first → decode y = .ok second →
      x.length = y.length → errors.length = x.length →
      ((∃ block, decode (x.xor errors) = .ok block) ↔
        ∃ block, decode (y.xor errors) = .ok block) := by
  constructor
  · intro a b c hab hbc
    exact Crc.toBytes_trailer_xor_xor hab hbc
  · intro x y errors first second hx hy hxy hlength
    rw [exists_decode_xor_iff hx hlength, exists_decode_xor_iff hy (hlength.trans hxy)]

/-- Errors that both of two answers hide, and errors that neither does. -/
theorem errors_alone_decide_hidden :
    let x : Bytes := [0x02, 0x90, 0x00, 0xF1, 0x09]
    let y : Bytes := [0x03, 0x6A, 0x82, 0x4F, 0x75]
    let hidden : Bytes := [0x30, 0x00, 0x02, 0xBC, 0xA5]
    let caught : Bytes := [0x00, 0x00, 0x00, 0x00, 0xFF]
    decode x = .ok (.information 0x02 [0x90, 0x00]) ∧
      decode y = .ok (.information 0x03 [0x6A, 0x82]) ∧
      decode (x.xor hidden) = .ok (.information 0x32 [0x90, 0x02]) ∧
      (∃ block, decode (y.xor hidden) = .ok block) ∧
      (¬∃ block, decode (x.xor caught) = .ok block) ∧
      (¬∃ block, decode (y.xor caught) = .ok block) ∧
      (Crc.trailer ((x.xor y).xor hidden)).toBytes =
        ((Crc.trailer x).toBytes.xor (Crc.trailer y).toBytes).xor (Crc.trailer hidden).toBytes := by
  intro x y hidden caught
  have hx : decode x = .ok (.information 0x02 [0x90, 0x00]) := by decide
  have hy : decode y = .ok (.information 0x03 [0x6A, 0x82]) := by decide
  have hhidden : decode (x.xor hidden) = .ok (.information 0x32 [0x90, 0x02]) := by decide
  have hcaught : decode (x.xor caught) = .error (.crcMismatch ⟨0xF1, 0x09⟩ ⟨0xF1, 0xF6⟩) := by
    decide
  have hnone : ¬∃ block, decode (x.xor caught) = .ok block := by
    rintro ⟨block, h⟩
    rw [hcaught] at h
    cases h
  obtain ⟨haffine, hsame⟩ := errors_alone_decide
  refine ⟨hx, hy, hhidden, (hsame x y hidden _ _ hx hy rfl rfl).mp ⟨_, hhidden⟩, hnone, ?_,
    haffine x y hidden rfl rfl⟩
  intro h
  exact hnone ((hsame x y caught _ _ hx hy rfl rfl).mpr h)

end Block

end Proximity
