import Proximity.Proofs.Attempt.Journal
import Proximity.Proofs.Frame.Image

/-!
Frames that are too short. Bits are looked at first, and the bytes that fit the buffer afterwards.
-/
namespace Proximity

theorem Block.decode_eq_tooShort_iff {raw : Bytes} {n : Nat} :
    decode raw = .error (.tooShort n) ↔ raw.length < 3 ∧ n = raw.length := by
  constructor
  · intro h
    rcases refusal_of_decode_eq_error h with ⟨hshort, he⟩ | ⟨-, actual, -, -, he⟩
    · exact ⟨hshort, FrameError.tooShort.inj he⟩
    · cases he
  · rintro ⟨hshort, rfl⟩
    exact decode_of_length_lt hshort

namespace Attempt

/-- The number of bits, when what was heard is too short for a frame. -/
def tooShort? : Except Failure Bytes → Option Nat
  | .error (.frameTooShort bits) => some bits
  | .error _ => none
  | .ok raw => if raw.length < 3 then some (8 * raw.length) else none

theorem requested?_of_tooShort {outcome : Except Failure Bytes} {n : Nat}
    (h : tooShort? outcome = some n) : requested? outcome = none := by
  cases outcome with
  | error e => rfl
  | ok raw =>
    by_cases hshort : raw.length < 3
    · simp only [requested?, Block.decode_of_length_lt hshort]
    · simp [tooShort?, hshort] at h

theorem ofFrameError_eq_tooShort_iff {raw : Bytes} {e : FrameError} {n : Nat}
    (hd : Block.decode raw = .error e) :
    Failure.ofFrameError e = .frameTooShort n ↔ tooShort? (.ok raw) = some n := by
  rcases Block.refusal_of_decode_eq_error hd with ⟨hshort, rfl⟩ | ⟨hlong, actual, -, -, rfl⟩
  · simp [Failure.ofFrameError, tooShort?, hshort]
  · simp [Failure.ofFrameError, tooShort?, Nat.not_lt.mpr hlong]

theorem tooShort?_of_decode {raw : Bytes} {block : Block} (hd : Block.decode raw = .ok block) :
    tooShort? (.ok raw) = none := by
  have hlong : ¬raw.length < 3 := by
    intro hshort
    rw [Block.decode_of_length_lt hshort] at hd
    cases hd
  rw [tooShort?, if_neg hlong]

theorem conclusion_eq_tooShort_iff {outcome : Except Failure Bytes} {n : Nat} :
    conclusion outcome = .error (.frameTooShort n) ↔ tooShort? outcome = some n := by
  cases outcome with
  | error e => cases e <;> simp [conclusion, tooShort?]
  | ok raw =>
    cases hd : Block.decode raw with
    | error e =>
      rw [conclusion_of_refusal hd, Except.error.injEq]
      exact ofFrameError_eq_tooShort_iff hd
    | ok block =>
      rw [tooShort?_of_decode hd]
      cases block <;> simp [conclusion, hd]

end Attempt

namespace ScriptedCard
open Attempt

/-- The `i`-th exchange of an attempt succeeds with a report of `bits`. -/
def Reports (card : ScriptedCard) (capacity i bits : Nat) : Prop :=
  ∃ frame, card.reply? i = some (.answer frame bits) ∧ frame.length ≤ capacity

theorem link_or_reports (card : ScriptedCard) (capacity i : Nat) :
    (∃ e, card.hearing capacity i = .error (.link e)) ∨ ∃ bits, card.Reports capacity i bits := by
  unfold ScriptedCard.hearing
  cases hreply : card.reply? i with
  | none => exact .inl ⟨.timeout, rfl⟩
  | some reply =>
    cases reply with
    | fail e => exact .inl ⟨e, rfl⟩
    | answer frame bits =>
      by_cases hroom : frame.length ≤ capacity
      · exact .inr ⟨bits, frame, hreply, hroom⟩
      · refine .inl ⟨.overflow, ?_⟩
        simp [receive, Nat.not_le.mp hroom]

theorem Reports.hearing_of_lt {card : ScriptedCard} {capacity i bits : Nat}
    (h : card.Reports capacity i bits) (hbits : bits < 24) :
    card.hearing capacity i = .error (.frameTooShort bits) := by
  obtain ⟨frame, hreply, hroom⟩ := h
  simp [ScriptedCard.hearing, receive, hreply, hbits, Nat.not_lt.mpr hroom]

/-- Enough bits are read as far as the buffer goes. -/
theorem Reports.exists_hearing {card : ScriptedCard} {capacity i bits : Nat}
    (h : card.Reports capacity i bits) (hbits : 24 ≤ bits) :
    ∃ raw, card.hearing capacity i = .ok raw ∧ raw.length = min (bits / 8) capacity := by
  obtain ⟨frame, hreply, hroom⟩ := h
  refine ⟨_, hearing_eq_ok_iff.mpr ⟨frame, bits, hreply, hroom, hbits, rfl⟩, ?_⟩
  have hbuffer : (Bytes.overwrite (card.bufferBefore capacity i) frame).length = capacity := by
    rw [Bytes.length_overwrite, length_bufferBefore]
    rwa [length_bufferBefore]
  rw [List.length_take, hbuffer, Nat.min_assoc, Nat.min_self]

theorem Reports.tooShort?_iff {card : ScriptedCard} {capacity i bits n : Nat}
    (h : card.Reports capacity i bits) :
    tooShort? (card.hearing capacity i) = some n ↔
      bits < 24 ∧ n = bits ∨ 24 ≤ bits ∧ capacity < 3 ∧ n = 8 * capacity := by
  rcases Nat.lt_or_ge bits 24 with hfew | henough
  · rw [h.hearing_of_lt hfew, tooShort?, Option.some.injEq]
    omega
  · obtain ⟨raw, hraw, hlength⟩ := h.exists_hearing henough
    rw [hraw, tooShort?]
    split_ifs with hshort
    · rw [Option.some.injEq]
      omega
    · simp only [false_iff]
      omega

/-- What an exchange brings is too short by its report, or for want of room. -/
theorem tooShort?_hearing_iff {card : ScriptedCard} {capacity i n : Nat} :
    tooShort? (card.hearing capacity i) = some n ↔
      ∃ bits, card.Reports capacity i bits ∧
        (bits < 24 ∧ n = bits ∨ 24 ≤ bits ∧ capacity < 3 ∧ n = 8 * capacity) := by
  constructor
  · intro h
    rcases card.link_or_reports capacity i with ⟨e, he⟩ | ⟨bits, hreports⟩
    · rw [he] at h
      cases h
    · exact ⟨bits, hreports, hreports.tooShort?_iff.mp h⟩
  · rintro ⟨bits, hreports, hn⟩
    exact hreports.tooShort?_iff.mpr hn

theorem length_hearing_of_room {card : ScriptedCard} {capacity i : Nat} {raw : Bytes}
    (hroom : 3 ≤ capacity) (h : card.hearing capacity i = .ok raw) : 3 ≤ raw.length := by
  rcases card.link_or_reports capacity i with ⟨e, he⟩ | ⟨bits, hreports⟩
  · rw [h] at he
    cases he
  · rcases Nat.lt_or_ge bits 24 with hfew | henough
    · rw [hreports.hearing_of_lt hfew] at h
      cases h
    · obtain ⟨heard, hheard, hlength⟩ := hreports.exists_hearing henough
      obtain rfl : raw = heard := Except.ok.inj (h.symm.trans hheard)
      omega

end ScriptedCard

end Proximity
