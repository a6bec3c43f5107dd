import Proximity.Proofs.Crc.Residue
import Mathlib.Logic.Function.Iterate

/-! Checksum upon checksum: from the second time on nothing but zeros is appended. -/
namespace Proximity.Crc

theorem toBytes_trailer_append (bytes : Bytes) : (trailer (append bytes)).toBytes = [0, 0] := by
  rw [trailer, register_append_self]
  rfl

theorem append_append (bytes : Bytes) : append (append bytes) = append bytes ++ Bytes.zeros 2 :=
  congrArg (append bytes ++ ·) (toBytes_trailer_append bytes)

/-- Only the first checksum says anything, whatever the string. -/
theorem iterate_append_succ (bytes : Bytes) (n : Nat) :
    append^[n + 1] bytes = append bytes ++ Bytes.zeros (2 * n) := by
  induction n with
  | zero => exact (List.append_nil (append bytes)).symm
  | succ n ih =>
    -- The last two rounds are taken together, since it is on `append _` that a round adds zeros.
    calc
      append^[n + 1 + 1] bytes = append (append (append^[n] bytes)) := by
        rw [Function.iterate_succ_apply', Function.iterate_succ_apply']
      _ = append^[n + 1] bytes ++ Bytes.zeros 2 := by
        rw [append_append, Function.iterate_succ_apply']
      _ = append bytes ++ (Bytes.zeros (2 * n) ++ Bytes.zeros 2) := by
        rw [ih, List.append_assoc]
      _ = append bytes ++ Bytes.zeros (2 * (n + 1)) := by
        rw [← Bytes.zeros_add, Nat.mul_succ]

/-- However often a checksum is appended, the string ends in its first checksum and zeros. -/
theorem append_repeated (bytes : Bytes) {n : Nat} (hn : 1 ≤ n) :
    append^[n] bytes = bytes ++ (trailer bytes).toBytes ++ Bytes.zeros (2 * (n - 1)) ∧
      (trailer (append^[n] bytes)).toBytes = [0, 0] := by
  obtain ⟨rounds, rfl⟩ : ∃ rounds, n = rounds + 1 := Nat.exists_eq_add_of_le' hn
  constructor
  · rw [Nat.add_sub_cancel]
    exact iterate_append_succ bytes rounds
  · rw [Function.iterate_succ_apply']
    exact toBytes_trailer_append (append^[rounds] bytes)

theorem append_repeated_halt :
    let halt : Bytes := [0x50, 0x00]
    1 ≤ 3 ∧ append^[3] halt = [0x50, 0x00, 0x57, 0xCD, 0x00, 0x00, 0x00, 0x00] ∧
      (trailer [0x50, 0x00, 0x57, 0xCD, 0x00, 0x00, 0x00, 0x00]).toBytes = [0, 0] := by
  intro halt
  have hrounds : 1 ≤ 3 := by decide
  have hfirst : (trailer halt).toBytes = [0x57, 0xCD] := by decide
  obtain ⟨hthree, hnext⟩ := append_repeated halt hrounds
  rw [hfirst] at hthree
  rw [hthree] at hnext
  exact ⟨hrounds, hthree, hnext⟩

end Proximity.Crc
