import Proximity.Session
import Proximity.Proofs.Attempt.Journal

/-! What comes of a request that fits a frame, in terms of its attempt. -/
namespace Proximity

theorem BlockNumber.toNat_toggle (n : BlockNumber) : n.toggle.toNat = (n.toNat + 1) % 2 := by
  cases n <;> rfl

/-- The number after an attempt: it moves on with a payload and stays otherwise. -/
def BlockNumber.following (n : BlockNumber) : Except Failure Bytes → BlockNumber
  | .ok _ => n.toggle
  | .error _ => n

/-- A payload as far as it may be taken. -/
def accept (capacity : Nat) (payload : Bytes) : Except Failure Bytes :=
  if capacity < payload.length then .error (.responseTooLarge payload.length capacity)
  else .ok payload

/-- The outcome of an attempt as the owner of `buffer` sees it. -/
def Filled.ofOutcome (buffer : Bytes) : Except Failure Bytes → Filled
  | .error e => ⟨.error e, buffer⟩
  | .ok payload =>
    if payload.length ≤ buffer.length then ⟨.ok payload.length, Bytes.overwrite buffer payload⟩
    else ⟨.error (.responseTooLarge payload.length buffer.length), buffer⟩

namespace Session

variable {σ : Type}

def opening (s : Session .active σ) (request : Bytes) : Transmission :=
  .whole (Frame.sealed (Pcb.information s.number) request).toBytes s.config.frameWait

theorem frame_opening_eq_iff (s t : Session .active σ) (request : Bytes) :
    (s.opening request).frame = (t.opening request).frame ↔ s.number = t.number := by
  constructor
  · intro h
    have hpcb : Pcb.information s.number = Pcb.information t.number := (List.cons.inj h).1
    revert hpcb
    cases s.number <;> cases t.number <;> decide
  · intro h
    rw [opening, opening, h]
    rfl

variable [Link σ]

def attempt (s : Session .active σ) (request : Bytes) : Attempt.Report (Handle σ) :=
  Attempt.run s.config s.number s.link (Frame.sealed (Pcb.information s.number) request).toBytes

/-- An attempt ends for lack of budget or with the first exchange that brings no request. -/
theorem attempt_scripted (s : Session .active ScriptedCard) (request : Bytes) :
    ∃ ms : List UInt8,
      (∀ i m, ms[i]? = some m →
        Attempt.requested? (s.link.link.hearing s.config.frameCapacity i) = some m) ∧
      (s.attempt request).link.link = s.link.link.after
        (s.opening request :: ms.map (Attempt.acknowledgement s.config.frameWait)) ∧
      ((s.config.maxExtensions < s.link.link.leadingRequests s.config.frameCapacity ∧
          ms.length = s.config.maxExtensions ∧
          (s.attempt request).outcome = .error (.extensionsExceeded s.config.maxExtensions)) ∨
        (s.link.link.leadingRequests s.config.frameCapacity = ms.length ∧
          ms.length ≤ s.config.maxExtensions ∧
          (s.attempt request).outcome =
            Attempt.conclusion (s.link.link.hearing s.config.frameCapacity ms.length))) :=
  Attempt.run_scripted s.config s.number s.link _

/-- The last exchange decides how an attempt ends, a request for time only with the budget spent. -/
theorem attempt_last (s : Session .active ScriptedCard) (request : Bytes) :
    ∃ k, (s.attempt request).link.link.sent.length = s.link.link.sent.length + (k + 1) ∧
      (s.attempt request).outcome =
        match Attempt.requested? (s.link.link.hearing s.config.frameCapacity k) with
        | some _ => .error (.extensionsExceeded s.config.maxExtensions)
        | none => Attempt.conclusion (s.link.link.hearing s.config.frameCapacity k) := by
  obtain ⟨ms, -, hlink, hend⟩ := s.attempt_scripted request
  refine ⟨ms.length, ?_, ?_⟩
  · rw [hlink, ScriptedCard.after, List.length_append, List.length_cons, List.length_map]
  · rcases hend with ⟨hlt, hspent, hout⟩ | ⟨hleading, -, hout⟩
    · have hrequested := (ScriptedCard.lt_leadingRequests_iff _ _ _).mp hlt ms.length hspent.le
      obtain ⟨m, hm⟩ := Option.ne_none_iff_exists'.mp hrequested
      rw [hout, hm]
    · have hanswered := ((ScriptedCard.leadingRequests_eq_iff _ _ _).mp hleading).1
      rw [hout, hanswered]

theorem transact_eq (s : Session .active σ) {request : Bytes}
    (fits : request.length ≤ s.config.maxPayload) (capacity : Nat) :
    s.transact request capacity =
      { result := (s.attempt request).outcome.bind (accept capacity)
        session :=
          { s with
            link := (s.attempt request).link
            number := s.number.following (s.attempt request).outcome }
        log := (s.attempt request).log } := by
  unfold transact
  rw [Frame.information_of_le fits]
  change (match (s.attempt request).outcome with
    | .error e => (⟨.error e, _, (s.attempt request).log⟩ : Turn σ (Except Failure Bytes))
    | .ok payload => _) = _
  cases (s.attempt request).outcome <;> rfl

theorem transact_of_oversized (s : Session .active σ) {request : Bytes}
    (h : s.config.maxPayload < request.length) (capacity : Nat) :
    s.transact request capacity =
      ⟨.error (.oversized ⟨request.length, s.config.maxPayload⟩), s, []⟩ := by
  unfold transact Frame.information
  rw [if_pos h]

@[simp] theorem config_transact (s : Session .active σ) (request : Bytes) (capacity : Nat) :
    (s.transact request capacity).session.config = s.config := by
  by_cases h : request.length ≤ s.config.maxPayload
  · rw [transact_eq s h]
  · rw [transact_of_oversized s (Nat.not_le.mp h)]

/-- What the result tells of a delivery is what the log shows. -/
theorem delivered_transact (s : Session .active σ) (request : Bytes) (capacity : Nat) :
    delivered (s.transact request capacity).result =
      (s.transact request capacity).log.any Event.bringsInformation := by
  by_cases h : request.length ≤ s.config.maxPayload
  · rw [transact_eq s h, attempt, ← Attempt.delivered_run]
    cases (Attempt.run s.config s.number s.link _).outcome with
    | error e => rfl
    | ok payload =>
      simp only [Except.bind, accept]
      split <;> rfl
  · rw [transact_of_oversized s (Nat.not_le.mp h)]
    rfl

theorem number_transact (s : Session .active σ) (request : Bytes) (capacity : Nat) :
    (s.transact request capacity).session.number =
      if delivered (s.transact request capacity).result then s.number.toggle else s.number := by
  by_cases h : request.length ≤ s.config.maxPayload
  · rw [transact_eq s h]
    cases ho : (s.attempt request).outcome with
    | error e =>
      have he := Attempt.followsDelivery_run _ _ _ _ ho
      simp [BlockNumber.following, Except.bind, delivered, he]
    | ok payload =>
      simp only [BlockNumber.following, Except.bind, accept]
      split <;> rfl
  · rw [transact_of_oversized s (Nat.not_le.mp h)]
    rfl

theorem requestInto_eq (s : Session .active σ) {request : Bytes}
    (fits : request.length ≤ s.config.maxPayload) (buffer : Bytes) :
    s.requestInto request buffer =
      { result := .ofOutcome buffer (s.attempt request).outcome
        session :=
          { s with
            link := (s.attempt request).link
            number := s.number.following (s.attempt request).outcome }
        log := (s.attempt request).log } := by
  rw [requestInto, transact_eq s fits]
  cases (s.attempt request).outcome with
  | error e => rfl
  | ok payload =>
    by_cases h : buffer.length < payload.length
    · simp [Turn.map, Except.bind, accept, Filled.ofOutcome, h, Nat.not_le.mpr h]
    · simp [Turn.map, Except.bind, accept, Filled.ofOutcome, h, Nat.not_lt.mp h]

end Session

end Proximity
