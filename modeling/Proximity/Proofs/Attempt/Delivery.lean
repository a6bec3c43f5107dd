import Proximity.Proofs.Attempt.Course

/-! When the card's payload arrives: the log shows it as an intact information block. -/
namespace Proximity

/-- A payload that is too large to take did arrive. -/
def Failure.followsDelivery : Failure → Bool
  | .responseTooLarge _ _ => true
  | _ => false

def delivered {α : Type} : Except Failure α → Bool
  | .ok _ => true
  | .error e => e.followsDelivery

/-- Whether an intact information block was received. -/
def Event.bringsInformation : Event → Bool
  | .received raw =>
    match Block.decode raw with
    | .ok (.information _ _) => true
    | _ => false
  | _ => false

theorem Event.bringsInformation_iff {e : Event} :
    e.bringsInformation = true ↔
      ∃ raw pcb payload, e = .received raw ∧ Block.decode raw = .ok (.information pcb payload) := by
  cases e with
  | received raw =>
    rw [bringsInformation]
    split
    case h_1 pcb payload hd => simp [hd]
    case h_2 hother =>
      refine iff_of_false (by decide) ?_
      rintro ⟨_, pcb, payload, ⟨⟩, hd⟩
      exact hother pcb payload hd
  | _ => simp [bringsInformation]

namespace Attempt

variable {σ : Type} [Link σ]

def Heard.Listened (heard : Heard σ) : Prop :=
  ∃ link frame buffer wait, heard = listen link frame buffer wait

theorem Course.listened {wait : UInt64} {heard last : Heard σ} {ms : List UInt8}
    (h : Course wait heard ms last) (hl : heard.Listened) : last.Listened := by
  induction h with
  | refl heard => exact hl
  | grant _ _ ih => exact ih ⟨_, _, _, _, rfl⟩

/-- What is noted of an exchange once it is over. Too few bits are not noted. -/
def notice : Except Failure Bytes → List Event
  | .ok raw => [.received raw]
  | .error (.link e) => [.linkFailed e]
  | .error _ => []

theorem log_of_listened {heard : Heard σ} (h : heard.Listened) :
    heard.log = notice heard.outcome := by
  obtain ⟨link, frame, buffer, wait, rfl⟩ := h
  unfold listen
  generalize Link.exchangeBytes link frame buffer wait = done
  obtain ⟨outcome, received, link⟩ := done
  cases outcome with
  | error e => rfl
  | ok bits => by_cases hb : bits < 24 <;> simp [Frame.minLength, hb, notice]

theorem followsDelivery_of_listened {heard : Heard σ} (h : heard.Listened) {e : Failure}
    (he : heard.outcome = .error e) : e.followsDelivery = false := by
  obtain ⟨link, frame, buffer, wait, rfl⟩ := h
  rw [outcome_listen] at he
  split at he
  · cases he
    rfl
  · split at he <;> cases he
    rfl

theorem any_log_of_requested {heard : Heard σ} (hl : heard.Listened) {m : UInt8}
    (hm : requested? heard.outcome = some m) : heard.log.any Event.bringsInformation = false := by
  obtain ⟨raw, rest, ho, hd⟩ := requested?_eq_some_iff.mp hm
  rw [log_of_listened hl, ho]
  simp [notice, Event.bringsInformation, hd]

theorem Course.any_chronicle {wait : UInt64} {heard last : Heard σ} {ms : List UInt8}
    (h : Course wait heard ms last) (hl : heard.Listened) (granted : Nat) :
    (chronicle wait granted heard ms).any Event.bringsInformation =
      last.log.any Event.bringsInformation := by
  induction h generalizing granted with
  | refl heard => rfl
  | grant hm _ ih =>
    rw [chronicle, List.any_append, any_log_of_requested hl hm, List.any_cons,
      ih ⟨_, _, _, _, rfl⟩]
    rfl

omit [Link σ] in
theorem any_log_ending (granted : Nat) (last : Heard σ) :
    (ending granted last).log.any Event.bringsInformation = false := by
  unfold ending
  split
  · rfl
  · unfold remark
    split
    · rfl
    · split <;> rfl

theorem delivered_ending {last : Heard σ} (hl : last.Listened) (granted : Nat) :
    delivered (ending granted last).outcome = last.log.any Event.bringsInformation := by
  unfold ending
  cases hr : requested? last.outcome with
  | some m =>
    rw [any_log_of_requested hl hr]
    rfl
  | none =>
    rw [log_of_listened hl]
    cases ho : last.outcome with
    | error e =>
      have he := followsDelivery_of_listened hl ho
      cases e <;> first | rfl | cases he
    | ok raw =>
      simp only [conclusion, notice, List.any_cons, List.any_nil, Bool.or_false,
        Event.bringsInformation]
      cases Block.decode raw with
      | error e => cases e <;> rfl
      | ok block => cases block <;> rfl

/-- A payload arrives just when an intact information block is received. -/
theorem delivered_run (config : Config) (number : BlockNumber) (link : σ) (frame : Bytes) :
    delivered (run config number link frame).outcome =
      (run config number link frame).log.any Event.bringsInformation := by
  obtain ⟨ms, last, hcourse, -, -, heq⟩ := run_eq config number link frame
  have hfirst : (opened config link frame).Listened := ⟨_, _, _, _, rfl⟩
  rw [heq, Report.after, delivered_ending (hcourse.listened hfirst), List.any_append, List.any_cons,
    hcourse.any_chronicle hfirst, any_log_ending, Bool.or_false]
  rfl

theorem followsDelivery_conclusion {raw : Bytes} {e : Failure}
    (he : conclusion (.ok raw) = .error e) : e.followsDelivery = false := by
  simp only [conclusion] at he
  split at he <;> cases he <;> rfl

theorem followsDelivery_run (config : Config) (number : BlockNumber) (link : σ) (frame : Bytes)
    {e : Failure} (he : (run config number link frame).outcome = .error e) :
    e.followsDelivery = false := by
  obtain ⟨ms, last, hcourse, -, -, heq⟩ := run_eq config number link frame
  rw [heq, Report.after, ending] at he
  cases hr : requested? last.outcome with
  | some m =>
    simp only [hr] at he
    cases he
    rfl
  | none =>
    simp only [hr] at he
    cases ho : last.outcome with
    | error e' =>
      rw [ho] at he
      cases he
      exact followsDelivery_of_listened (hcourse.listened ⟨_, _, _, _, rfl⟩) ho
    | ok raw =>
      rw [ho] at he
      exact followsDelivery_conclusion he

end Attempt

end Proximity
