import Proximity.Proofs.Attempt.Delivery
import Proximity.Proofs.Attempt.Script

/-! The whole of an attempt on a script, log included. -/
namespace Proximity

namespace Attempt

/-- What is noted of the frames of an attempt, each before it is sent. -/
def announcements (wait : UInt64) (number : BlockNumber) (frame : Bytes) (ms : List UInt8) :
    List Event :=
  .informationSent number frame :: ms.mapIdx fun i m =>
    .extensionSent (i + 1) m (WaitingTime.extended wait m) (Frame.extension m).toBytes

def closing : Except Failure Bytes → List Event
  | .error (.extensionsExceeded granted) => [.extensionsExhausted granted]
  | .error (.unsupportedBlock pcb) => [.unsupported pcb]
  | _ => []

/-- What is noted of an exchange that brought enough bits. -/
def receipt : Except Failure Bytes → List Event
  | .ok raw => [.received raw]
  | .error _ => []

def breakdown : Except Failure Bytes → List Event
  | .error (.link e) => [.linkFailed e]
  | _ => []

theorem notice_eq (outcome : Except Failure Bytes) :
    notice outcome = receipt outcome ++ breakdown outcome := by
  cases outcome with
  | ok raw => rfl
  | error e => cases e <;> rfl

theorem breakdown_of_requested {outcome : Except Failure Bytes} (h : requested? outcome ≠ none) :
    breakdown outcome = [] := by
  cases outcome with
  | ok raw => rfl
  | error e => exact absurd rfl h

theorem breakdown_conclusion (outcome : Except Failure Bytes) :
    breakdown (conclusion outcome) = breakdown outcome := by
  cases outcome with
  | error e => rfl
  | ok raw =>
    simp only [conclusion]
    cases Block.decode raw with
    | error e => cases e <;> rfl
    | ok block => cases block <;> rfl

end Attempt

namespace ScriptedCard
open Attempt

/-- Exchanges as a log tells them: each announced, and behind it what came of it. -/
def journal (card : ScriptedCard) (capacity : Nat) (announced : List Event) : List Event :=
  (announced.mapIdx fun i e => e :: notice (card.hearing capacity i)).flatten

/-- While the link does not fail, nothing but receipts stands between announcements. -/
theorem journal_eq {card : ScriptedCard} {capacity n : Nat} {announced : List Event}
    (hlength : announced.length = n + 1)
    (hbefore : ∀ i < n, breakdown (card.hearing capacity i) = []) :
    card.journal capacity announced =
      (announced.mapIdx fun i e => e :: receipt (card.hearing capacity i)).flatten ++
        breakdown (card.hearing capacity n) := by
  obtain ⟨front, last, rfl⟩ : ∃ front last, announced = front ++ [last] := by
    rcases List.eq_nil_or_concat announced with rfl | ⟨front, last, rfl⟩
    · cases hlength
    · exact ⟨front, last, List.concat_eq_append⟩
  have hn : front.length = n := by simpa using hlength
  have hfront : (front.mapIdx fun i e => e :: notice (card.hearing capacity i)) =
      front.mapIdx fun i e => e :: receipt (card.hearing capacity i) := by
    refine List.mapIdx_eq_mapIdx_iff.mpr fun i hi => ?_
    rw [notice_eq, hbefore i (hn ▸ hi), List.append_nil]
  rw [journal, List.mapIdx_concat, List.mapIdx_concat, hfront, notice_eq, hn]
  simp

/-- The card asks for time with these multipliers in turn, and behind them no more unless the budget
is spent. -/
structure Asks (card : ScriptedCard) (capacity budget : Nat) (ms : List UInt8) : Prop where
  each : ∀ i m, ms[i]? = some m → requested? (card.hearing capacity i) = some m
  granted : ms.length ≤ budget
  stops : requested? (card.hearing capacity ms.length) ≠ none → ms.length = budget

theorem Asks.ne_none {card : ScriptedCard} {capacity budget : Nat} {ms : List UInt8}
    (h : card.Asks capacity budget ms) {i : Nat} (hi : i < ms.length) :
    requested? (card.hearing capacity i) ≠ none := by
  rw [h.each i ms[i] (List.getElem?_eq_getElem hi)]
  exact Option.some_ne_none _

theorem hearing_eq_error {card : ScriptedCard} {capacity i : Nat} {e : Failure}
    (h : card.hearing capacity i = .error e) :
    (∃ e', e = .link e') ∨ ∃ bits, e = .frameTooShort bits ∧ bits < 24 := by
  unfold hearing at h
  split at h
  · cases h
    exact .inl ⟨_, rfl⟩
  · split_ifs at h with hbits
    cases h
    exact .inr ⟨_, rfl, hbits⟩

end ScriptedCard

namespace Attempt

theorem Course.chronicle_eq {wait : UInt64} {heard last : Heard (Handle ScriptedCard)}
    {ms : List UInt8} {card : ScriptedCard} {capacity i : Nat} (h : Course wait heard ms last)
    (hat : heard.IsAt card capacity i) (hl : heard.Listened) :
    chronicle wait i heard ms = notice (card.hearing capacity i) ++
      (ms.mapIdx fun j m =>
        .extensionSent (i + j + 1) m (WaitingTime.extended wait m) (Frame.extension m).toBytes ::
          notice (card.hearing capacity (i + j + 1))).flatten := by
  -- `i` requests were granted when the `i`-th exchange is over.
  induction h generalizing i with
  | refl heard =>
    rw [chronicle, log_of_listened hl, hat.outcome]
    simp
  | @grant heard last multiplier rest hm _ ih =>
    have hnext : (Attempt.grant wait heard multiplier).IsAt card capacity (i + 1) := by
      rw [Attempt.grant, hat.buffer]
      exact listen_isAt hat.queue hat.fallback _ _
    rw [chronicle, ih hnext ⟨_, _, _, _, rfl⟩, log_of_listened hl, hat.outcome, List.mapIdx_cons,
      List.flatten_cons]
    simp [Nat.add_assoc, Nat.add_comm 1]

theorem Heard.IsAt.log_ending {last : Heard (Handle ScriptedCard)} {card : ScriptedCard}
    {capacity i : Nat} (hat : last.IsAt card capacity i) (granted : Nat) :
    (ending granted last).log = closing (ending granted last).outcome := by
  unfold ending
  cases hr : requested? last.outcome with
  | some m => rfl
  | none =>
    rw [hat.outcome]
    cases ho : card.hearing capacity i with
    | error e =>
      rcases ScriptedCard.hearing_eq_error ho with ⟨e', rfl⟩ | ⟨bits, rfl, -⟩ <;> rfl
    | ok raw =>
      simp only [remark, conclusion]
      cases Block.decode raw with
      | error e => cases e <;> rfl
      | ok block => cases block <;> rfl

theorem run_eq_scripted (config : Config) (number : BlockNumber) (handle : Handle ScriptedCard)
    (frame : Bytes) :
    ∃ ms last, handle.link.Asks config.frameCapacity config.maxExtensions ms ∧
      last.IsAt handle.link config.frameCapacity ms.length ∧
      last.link.link = handle.link.after (.whole frame config.frameWait ::
        ms.map (acknowledgement config.frameWait)) ∧
      run config number handle frame = (ending ms.length last).after
        (handle.link.journal config.frameCapacity
          (announcements config.frameWait number frame ms)) := by
  obtain ⟨ms, last, hcourse, hle, hstop, heq⟩ := run_eq config number handle frame
  have hfirst : (opened config handle frame).IsAt handle.link config.frameCapacity 0 :=
    listen_isAt rfl rfl frame config.frameWait
  obtain ⟨hat, hms⟩ := hcourse.isAt hfirst
  rw [Nat.zero_add] at hat
  simp only [Nat.zero_add] at hms
  rw [hat.outcome] at hstop
  refine ⟨ms, last, ⟨hms, hle, hstop⟩, hat, ?_, ?_⟩
  · exact ScriptedCard.eq_after (by simpa using hat.queue) hat.fallback hcourse.sent_opened
  · rw [heq, hcourse.chronicle_eq hfirst ⟨_, _, _, _, rfl⟩, ScriptedCard.journal, announcements,
      List.mapIdx_cons, List.flatten_cons, List.mapIdx_mapIdx]
    simp only [Nat.zero_add, List.cons_append]
    rfl

/-- Each frame is announced, with what it brought right behind it, and all else comes last. -/
theorem log_run_scripted (config : Config) (number : BlockNumber) (handle : Handle ScriptedCard)
    (frame : Bytes) :
    ∃ ms : List UInt8,
      (run config number handle frame).link.link = handle.link.after
        (.whole frame config.frameWait :: ms.map (acknowledgement config.frameWait)) ∧
      (run config number handle frame).log =
        ((announcements config.frameWait number frame ms).mapIdx fun i e =>
          e :: receipt (handle.link.hearing config.frameCapacity i)).flatten ++
        (breakdown (run config number handle frame).outcome ++
          closing (run config number handle frame).outcome) := by
  obtain ⟨ms, last, hasks, hat, hlink, heq⟩ := run_eq_scripted config number handle frame
  have hlength : (announcements config.frameWait number frame ms).length = ms.length + 1 := by
    simp [announcements]
  have hheard : breakdown (handle.link.hearing config.frameCapacity ms.length) =
      breakdown (ending ms.length last).outcome := by
    unfold ending
    rw [hat.outcome]
    cases hr : requested? (handle.link.hearing config.frameCapacity ms.length) with
    | none => exact (breakdown_conclusion _).symm
    | some m => exact breakdown_of_requested (by simp [hr])
  refine ⟨ms, by rw [heq, Report.after, link_ending, hlink], ?_⟩
  rw [heq, Report.after, ScriptedCard.journal_eq hlength fun i hi =>
    breakdown_of_requested (hasks.ne_none hi), hheard, hat.log_ending, List.append_assoc]

/-- An attempt on a script acknowledges the leading requests as far as its budget goes. -/
theorem run_scripted (config : Config) (number : BlockNumber) (handle : Handle ScriptedCard)
    (frame : Bytes) :
    ∃ ms : List UInt8,
      (∀ i m, ms[i]? = some m →
        requested? (handle.link.hearing config.frameCapacity i) = some m) ∧
      (run config number handle frame).link.link =
        handle.link.after (.whole frame config.frameWait ::
          ms.map (acknowledgement config.frameWait)) ∧
      ((config.maxExtensions < handle.link.leadingRequests config.frameCapacity ∧
          ms.length = config.maxExtensions ∧
          (run config number handle frame).outcome =
            .error (.extensionsExceeded config.maxExtensions)) ∨
        (handle.link.leadingRequests config.frameCapacity = ms.length ∧
          ms.length ≤ config.maxExtensions ∧
          (run config number handle frame).outcome =
            conclusion (handle.link.hearing config.frameCapacity ms.length))) := by
  obtain ⟨ms, last, hasks, hat, hlink, heq⟩ := run_eq_scripted config number handle frame
  refine ⟨ms, hasks.each, ?_, ?_⟩
  · rw [heq, Report.after, link_ending, hlink]
  · rw [heq, Report.after, ending, hat.outcome]
    cases hr : requested? (handle.link.hearing config.frameCapacity ms.length) with
    | none =>
      right
      exact ⟨(ScriptedCard.leadingRequests_eq_iff _ _ _).mpr ⟨hr, fun i hi => hasks.ne_none hi⟩,
        hasks.granted, rfl⟩
    | some m =>
      left
      have hne : requested? (handle.link.hearing config.frameCapacity ms.length) ≠ none := by
        rw [hr]
        exact Option.some_ne_none m
      have hspent := hasks.stops hne
      refine ⟨(ScriptedCard.lt_leadingRequests_iff _ _ _).mpr fun i hi => ?_, hspent, by rw [hspent]⟩
      rcases Nat.lt_or_eq_of_le (hspent ▸ hi) with hlt | rfl
      · exact hasks.ne_none hlt
      · exact hne

end Attempt

end Proximity
