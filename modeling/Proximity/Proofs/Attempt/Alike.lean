import Proximity.Proofs.Attempt.Journal
import Proximity.Proofs.Frame.Residue
import Mathlib.Data.List.Forall2

/-! What an attempt does not look at. Scripts that differ in no more lead to the same attempt. -/
namespace Proximity

/-- Received strings that come to the same: intact frames with the same information, or with requests
for the same time. -/
inductive Attempt.Alike : Bytes → Bytes → Prop
  | refl (raw : Bytes) : Alike raw raw
  | information {raw raw' : Bytes} {pcb pcb' : Pcb} {inf : Bytes} :
    Block.decode raw = .ok (.information pcb inf) →
    Block.decode raw' = .ok (.information pcb' inf) → Alike raw raw'
  | extension {raw raw' : Bytes} {multiplier : UInt8} {rest rest' : Bytes} :
    Block.decode raw = .ok (.supervisory Pcb.extension (multiplier :: rest)) →
    Block.decode raw' = .ok (.supervisory Pcb.extension (multiplier :: rest')) → Alike raw raw'

/-- Replies that come to the same, each of its true length. Frames of different lengths have to fit
both, or neither. -/
inductive Reply.Alike (capacity : Nat) : Reply → Reply → Prop
  | fail (e : LinkError) : Alike capacity (.fail e) (.fail e)
  | whole {frame frame' : Bytes} :
    Attempt.Alike frame frame' → (frame.length ≤ capacity ↔ frame'.length ≤ capacity) →
    Alike capacity (.whole frame) (.whole frame')

/-- Another control byte of the kind, be it for another number, chaining or addresses. -/
theorem Reply.alike_information (capacity : Nat) {pcb pcb' : Pcb} (hk : pcb.kind = .information)
    (hk' : pcb'.kind = .information) (inf : Bytes) :
    Reply.Alike capacity (.whole (Frame.sealed pcb inf).toBytes)
      (.whole (Frame.sealed pcb' inf).toBytes) := by
  refine .whole (.information (Block.decode_eq_information_iff.mpr ⟨hk, rfl⟩)
    (Block.decode_eq_information_iff.mpr ⟨hk', rfl⟩)) ?_
  rw [Frame.length_toBytes, Frame.length_toBytes]
  rfl

theorem Reply.alike_extension {capacity : Nat} (multiplier : UInt8) {rest rest' : Bytes}
    (hle : (Frame.sealed Pcb.extension (multiplier :: rest)).toBytes.length ≤ capacity)
    (hle' : (Frame.sealed Pcb.extension (multiplier :: rest')).toBytes.length ≤ capacity) :
    Reply.Alike capacity (.whole (Frame.sealed Pcb.extension (multiplier :: rest)).toBytes)
      (.whole (Frame.sealed Pcb.extension (multiplier :: rest')).toBytes) :=
  .whole (.extension (Block.decode_extension _) (Block.decode_extension _)) (iff_of_true hle hle')

/-- Cards that were sent the same and will answer alike. -/
structure ScriptedCard.Alike (capacity : Nat) (card card' : ScriptedCard) : Prop where
  queue : List.Forall₂ (Reply.Alike capacity) card.queue card'.queue
  fallback : Option.Rel (Reply.Alike capacity) card.fallback? card'.fallback?
  sent : card'.sent = card.sent

inductive Event.Alike : Event → Event → Prop
  | refl (e : Event) : Alike e e
  | received {raw raw' : Bytes} : Attempt.Alike raw raw' → Alike (.received raw) (.received raw')

theorem Event.forall₂_alike_refl (log : List Event) : List.Forall₂ Event.Alike log log :=
  List.forall₂_same.mpr fun e _ => .refl e

namespace Attempt

inductive OutcomeAlike : Except Failure Bytes → Except Failure Bytes → Prop
  | error (e : Failure) : OutcomeAlike (.error e) (.error e)
  | ok {raw raw' : Bytes} : Alike raw raw' → OutcomeAlike (.ok raw) (.ok raw')

theorem Alike.eq_or_long {raw raw' : Bytes} (h : Alike raw raw') :
    raw' = raw ∨ 3 ≤ raw.length ∧ 3 ≤ raw'.length := by
  cases h with
  | refl => exact .inl rfl
  | information hd hd' =>
    exact .inr ⟨Block.length_of_decode_eq_ok hd, Block.length_of_decode_eq_ok hd'⟩
  | extension hd hd' =>
    exact .inr ⟨Block.length_of_decode_eq_ok hd, Block.length_of_decode_eq_ok hd'⟩

theorem OutcomeAlike.requested? {outcome outcome' : Except Failure Bytes}
    (h : OutcomeAlike outcome outcome') :
    Attempt.requested? outcome' = Attempt.requested? outcome := by
  cases h with
  | error e => rfl
  | ok h =>
    cases h with
    | refl => rfl
    | information hd hd' => simp only [Attempt.requested?, hd, hd']
    | extension hd hd' => simp only [Attempt.requested?, hd, hd']

theorem OutcomeAlike.conclusion {outcome outcome' : Except Failure Bytes}
    (h : OutcomeAlike outcome outcome') :
    Attempt.conclusion outcome' = Attempt.conclusion outcome := by
  cases h with
  | error e => rfl
  | ok h =>
    cases h with
    | refl => rfl
    | information hd hd' => simp only [Attempt.conclusion, hd, hd']
    | extension hd hd' => simp only [Attempt.conclusion, hd, hd', Block.pcb]

theorem OutcomeAlike.notice {outcome outcome' : Except Failure Bytes}
    (h : OutcomeAlike outcome outcome') :
    List.Forall₂ Event.Alike (Attempt.notice outcome) (Attempt.notice outcome') := by
  cases h with
  | error e => exact Event.forall₂_alike_refl _
  | ok h => exact .cons (.received h) .nil

end Attempt

namespace ScriptedCard
open Attempt

variable {capacity : Nat} {card card' : ScriptedCard}

theorem Alike.reply? (h : card.Alike capacity card') (i : Nat) :
    Option.Rel (Reply.Alike capacity) (card.reply? i) (card'.reply? i) := by
  unfold ScriptedCard.reply?
  have hlength := h.queue.length_eq
  by_cases hi : i < card.queue.length
  · rw [List.getElem?_eq_getElem hi, List.getElem?_eq_getElem (hlength ▸ hi)]
    exact .some (h.queue.get hi (hlength ▸ hi))
  · rw [List.getElem?_eq_none (Nat.not_lt.mp hi), List.getElem?_eq_none (hlength ▸ Nat.not_lt.mp hi)]
    exact h.fallback

theorem Alike.hearing (h : card.Alike capacity card') (i : Nat) :
    OutcomeAlike (card.hearing capacity i) (card'.hearing capacity i) := by
  have hreply := h.reply? i
  revert hreply
  generalize hr : card.reply? i = reply?
  generalize hr' : card'.reply? i = reply?'
  intro hreply
  cases hreply with
  | none =>
    simp only [ScriptedCard.hearing, hr, hr', receive]
    exact .error _
  | some hreply =>
    cases hreply with
    | fail e =>
      simp only [ScriptedCard.hearing, hr, hr', receive]
      exact .error _
    | @whole frame frame' halike hfit =>
      rw [hearing_of_whole hr, hearing_of_whole hr']
      by_cases hroom : capacity < frame.length
      · have hroom' : capacity < frame'.length :=
          Nat.not_le.mp fun hle => Nat.not_le.mpr hroom (hfit.mpr hle)
        rw [if_pos hroom, if_pos hroom']
        exact .error _
      · have hroom' : ¬capacity < frame'.length := Nat.not_lt.mpr (hfit.mp (Nat.not_lt.mp hroom))
        rw [if_neg hroom, if_neg hroom']
        rcases halike.eq_or_long with rfl | ⟨hlong, hlong'⟩
        · split
          · exact .error _
          · exact .ok halike
        · rw [if_neg (Nat.not_lt.mpr hlong), if_neg (Nat.not_lt.mpr hlong')]
          exact .ok halike

theorem Alike.after (h : card.Alike capacity card') (ts : List Transmission) :
    (card.after ts).Alike capacity (card'.after ts) where
  queue := List.forall₂_drop _ h.queue
  fallback := h.fallback
  sent := congrArg (· ++ ts) h.sent

theorem Alike.journal (h : card.Alike capacity card') (announced : List Event) :
    List.Forall₂ Event.Alike (card.journal capacity announced)
      (card'.journal capacity announced) := by
  apply List.rel_flatten
  rw [List.forall₂_iff_get]
  refine ⟨by simp, fun i hi hi' => ?_⟩
  simp only [List.get_eq_getElem, List.getElem_mapIdx]
  exact .cons (.refl _) (h.hearing i).notice

theorem Asks.unique {budget : Nat} {ms ms' : List UInt8} (h : card.Asks capacity budget ms)
    (h' : card'.Asks capacity budget ms')
    (hsame : ∀ i, requested? (card'.hearing capacity i) = requested? (card.hearing capacity i)) :
    ms' = ms := by
  have hlength : ms'.length = ms.length := by
    rcases Nat.lt_trichotomy ms.length ms'.length with hlt | heq | hlt
    · have hspent := h.stops (hsame _ ▸ h'.ne_none hlt)
      have hgranted := h'.granted
      omega
    · exact heq.symm
    · have hspent := h'.stops (hsame _ ▸ h.ne_none hlt)
      have hgranted := h.granted
      omega
  refine List.ext_getElem hlength fun i hi' hi => ?_
  have hm := h.each i ms[i] (List.getElem?_eq_getElem hi)
  rw [← hsame, h'.each i ms'[i] (List.getElem?_eq_getElem hi')] at hm
  exact Option.some.inj hm

end ScriptedCard

namespace Attempt

structure Report.Alike (capacity : Nat) (report report' : Report (Handle ScriptedCard)) :
    Prop where
  outcome : report'.outcome = report.outcome
  card : report.link.link.Alike capacity report'.link.link
  log : List.Forall₂ Event.Alike report.log report'.log

theorem run_alike (config : Config) (number : BlockNumber) {handle handle' : Handle ScriptedCard}
    (h : handle.link.Alike config.frameCapacity handle'.link) (frame : Bytes) :
    (run config number handle frame).Alike config.frameCapacity
      (run config number handle' frame) := by
  obtain ⟨ms, last, hasks, hat, hlink, heq⟩ := run_eq_scripted config number handle frame
  obtain ⟨ms', last', hasks', hat', hlink', heq'⟩ := run_eq_scripted config number handle' frame
  obtain rfl := hasks.unique hasks' fun i => (h.hearing i).requested?
  have hlast : OutcomeAlike last.outcome last'.outcome := by
    rw [hat.outcome, hat'.outcome]
    exact h.hearing _
  have hend : (ending ms'.length last').outcome = (ending ms'.length last).outcome := by
    unfold ending
    rw [hlast.requested?]
    cases requested? last.outcome with
    | some m => rfl
    | none => exact hlast.conclusion
  rw [heq, heq']
  refine ⟨hend, ?_, ?_⟩
  · simp only [Report.after, link_ending, hlink, hlink']
    exact h.after _
  · simp only [Report.after, hat.log_ending, hat'.log_ending, hend]
    exact List.rel_append (h.journal _) (Event.forall₂_alike_refl _)

end Attempt

end Proximity
