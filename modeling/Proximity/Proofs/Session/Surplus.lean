import Proximity.Proofs.Frame.Padding
import Proximity.Proofs.Session.Transact

/-!
A link that reports more than the answer has. What stands behind the answer is the empty buffer.
-/
namespace Proximity

namespace ScriptedCard

/-- Zeros stand behind the first answer, as far as the report and the buffer go. -/
theorem hearing_zero_eq_ok_iff {card : ScriptedCard} {capacity : Nat} {raw : Bytes} :
    card.hearing capacity 0 = .ok raw ↔
      ∃ frame bits, card.next? = some (.answer frame bits) ∧ frame.length ≤ capacity ∧
        24 ≤ bits ∧
        raw = (frame ++ Bytes.zeros (capacity - frame.length)).take (min (bits / 8) capacity) := by
  have hnext : card.reply? 0 = card.next? := by
    rw [reply?, ← List.head?_eq_getElem?]
    rfl
  have hbehind (frame : Bytes) : Bytes.overwrite (card.bufferBefore capacity 0) frame =
      frame ++ Bytes.zeros (capacity - frame.length) := by
    rw [bufferBefore, Bytes.overwrite, Bytes.zeros, List.drop_replicate, Bytes.zeros]
  rw [hearing_eq_ok_iff, hnext]
  simp only [hbehind]

end ScriptedCard

namespace Session
open Attempt

/-- An attempt whose first exchange brings anything but a request for time ends with it. -/
theorem attempt_answered (s : Session .active ScriptedCard) (request : Bytes)
    (answered : requested? (s.link.link.hearing s.config.frameCapacity 0) = none) :
    (s.attempt request).outcome = conclusion (s.link.link.hearing s.config.frameCapacity 0) ∧
      (s.attempt request).link = ⟨s.link.link.after [s.opening request]⟩ := by
  obtain ⟨ms, -, hlink, hend⟩ := s.attempt_scripted request
  have hnone : s.link.link.leadingRequests s.config.frameCapacity = (0 : ℕ) :=
    (ScriptedCard.leadingRequests_eq_iff _ _ 0).mpr ⟨answered, fun i hi => absurd hi i.not_lt_zero⟩
  rw [hnone] at hend
  rcases hend with ⟨hlt, -, -⟩ | ⟨hlen, -, hout⟩
  · exact absurd (by exact_mod_cast hlt) (Nat.not_lt_zero s.config.maxExtensions)
  · have hzero : ms.length = 0 := by exact_mod_cast hlen.symm
    obtain rfl : ms = [] := List.eq_nil_of_length_eq_zero hzero
    exact ⟨hout, congrArg Handle.mk hlink⟩

end Session

end Proximity
