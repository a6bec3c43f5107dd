import Proximity.Proofs.Session.Checked

/-! How much the caller's room decides: only whether a payload is taken. -/
namespace Proximity

theorem accept_eq (capacity : Nat) (payload : Bytes) :
    accept capacity payload =
      if payload.length ≤ capacity then .ok payload
      else .error (.responseTooLarge payload.length capacity) := by
  by_cases h : payload.length ≤ capacity
  · rw [accept, if_pos h, if_neg (Nat.not_lt.mpr h)]
  · rw [accept, if_neg h, if_pos (Nat.not_le.mp h)]

theorem ScriptedCard.length_hearing {card : ScriptedCard} {capacity i : Nat} {raw : Bytes}
    (h : card.hearing capacity i = .ok raw) : raw.length ≤ capacity := by
  unfold hearing at h
  split at h
  · cases h
  · split_ifs at h
    cases h
    exact (List.length_take_le _ _).trans (min_le_right _ _)

namespace Session

/-- A payload comes with the overhead of its frame, and so fits a request as well. -/
theorem length_payload_of_attempt (s : Session .active ScriptedCard) {request payload : Bytes}
    (h : (s.attempt request).outcome = .ok payload) : payload.length ≤ s.config.maxPayload := by
  obtain ⟨k, raw, pcb, -, hraw, hd⟩ := s.exists_hearing_of_attempt h
  obtain ⟨hlength, -⟩ := Block.field_of_decode hd
  have hroom := ScriptedCard.length_hearing hraw
  rw [Config.maxPayload, Frame.overhead]
  omega

/-- One outcome serves every caller, whatever room there is. -/
theorem exists_outcome (s : Session .active ScriptedCard) (request : Bytes) :
    ∃ outcome session log,
      (∀ buffer, s.requestInto request buffer = ⟨.ofOutcome buffer outcome, session, log⟩) ∧
      s.request request = ⟨outcome.bind (accept s.config.maxResponse), session, log⟩ ∧
      (∀ e, outcome = .error e → e.followsDelivery = false) ∧
      ∀ payload, outcome = .ok payload → payload.length ≤ s.config.maxPayload ∧
        ∃ k raw pcb, session.link.link.sent.length = s.link.link.sent.length + (k + 1) ∧
          s.link.link.hearing s.config.frameCapacity k = .ok raw ∧
          Block.decode raw = .ok (.information pcb payload) := by
  by_cases fits : request.length ≤ s.config.maxPayload
  · refine ⟨(s.attempt request).outcome, _, _, s.requestInto_eq fits, s.transact_eq fits _, ?_, ?_⟩
    · intro e he
      exact Attempt.followsDelivery_run _ _ _ _ he
    · intro payload hpayload
      exact ⟨s.length_payload_of_attempt hpayload, s.exists_hearing_of_attempt hpayload⟩
  · have h := Nat.not_le.mp fits
    refine ⟨.error (.oversized ⟨request.length, s.config.maxPayload⟩), s, [],
      s.requestInto_of_oversized h, s.request_of_oversized h, ?_, ?_⟩
    · rintro e ⟨⟩
      rfl
    · rintro payload ⟨⟩

/-- Two callers with different room share all that is exchanged, and the same failure or the same
payload, which each takes if it fits. -/
theorem requestInto_capacity (s : Session .active ScriptedCard) (request buffer other : Bytes) :
    let turn := s.requestInto request buffer
    let turn' := s.requestInto request other
    let plain := s.request request
    turn'.session = turn.session ∧ turn'.log = turn.log ∧
    plain = (s.requestInto request (Bytes.zeros s.config.maxResponse)).map Checked.response ∧
    plain.session = turn.session ∧ plain.log = turn.log ∧
    ((∃ e, (∀ length capacity, e ≠ .responseTooLarge length capacity) ∧
        turn.result = ⟨.error e, buffer⟩ ∧ turn'.result = ⟨.error e, other⟩ ∧
        plain.result = .error e) ∨
      ∃ k raw pcb payload,
        turn.session.link.link.sent.length = s.link.link.sent.length + (k + 1) ∧
        s.link.link.hearing s.config.frameCapacity k = .ok raw ∧
        Block.decode raw = .ok (.information pcb payload) ∧
        payload.length ≤ s.config.maxPayload ∧
        turn.result =
          (if payload.length ≤ buffer.length then
            ⟨.ok payload.length, Bytes.overwrite buffer payload⟩
          else ⟨.error (.responseTooLarge payload.length buffer.length), buffer⟩) ∧
        turn'.result =
          (if payload.length ≤ other.length then ⟨.ok payload.length, Bytes.overwrite other payload⟩
          else ⟨.error (.responseTooLarge payload.length other.length), other⟩) ∧
        plain.result =
          (if payload.length ≤ s.config.maxResponse then .ok payload
          else .error (.responseTooLarge payload.length s.config.maxResponse))) ∧
    (s.config.maxPayload ≤ buffer.length →
      ∀ length capacity, turn.result.length ≠ .error (.responseTooLarge length capacity)) := by
  intro turn turn' plain
  obtain ⟨outcome, session, log, hinto, hplain, hfailure, hpayload⟩ := s.exists_outcome request
  have hturn : turn = _ := hinto buffer
  have hturn' : turn' = _ := hinto other
  have hrequest : plain = _ := hplain
  refine ⟨by rw [hturn, hturn'], by rw [hturn, hturn'], s.request_eq_requestInto request,
    by rw [hturn, hrequest], by rw [hturn, hrequest], ?_⟩
  rw [hturn, hturn', hrequest]
  cases outcome with
  | error e =>
    have he : ∀ length capacity, e ≠ .responseTooLarge length capacity := by
      rintro length capacity rfl
      cases hfailure _ rfl
    refine ⟨.inl ⟨e, he, rfl, rfl, rfl⟩, fun _ length capacity h => ?_⟩
    exact he length capacity (Except.error.inj h)
  | ok payload =>
    -- A frame never carries more than the largest payload of the configuration.
    obtain ⟨hle, k, raw, pcb, hsent, hraw, hd⟩ := hpayload payload rfl
    constructor
    · exact .inr ⟨k, raw, pcb, payload, hsent, hraw, hd, hle, rfl, rfl, accept_eq _ _⟩
    · intro hroom length capacity h
      have htaken : (Filled.ofOutcome buffer (.ok payload)).length = .ok payload.length := by
        rw [Filled.ofOutcome, if_pos (hle.trans hroom)]
      cases htaken.symm.trans h

theorem requestInto_capacity_extended_once :
    let s : Session .active ScriptedCard :=
      ⟨⟨{ queue := [.whole [0xF2, 0x03, 0x83, 0x63], .whole [0x02, 0x90, 0x00, 0xF1, 0x09]] }⟩,
        { frameCapacity := 16, maxResponse := 13 }, .zero⟩
    let roomy := s.requestInto [0xA2] (Bytes.zeros 13)
    let narrow := s.requestInto [0xA2] [0xEE]
    s.config.maxPayload ≤ (Bytes.zeros 13).length ∧
      (∀ length capacity, roomy.result.length ≠ .error (.responseTooLarge length capacity)) ∧
      narrow.session = roomy.session ∧ narrow.log = roomy.log ∧
      roomy.result.length = .ok 2 ∧ narrow.result.length = .error (.responseTooLarge 2 1) := by
  intro s roomy narrow
  have hroom : s.config.maxPayload ≤ (Bytes.zeros 13).length := by decide
  have hroomy : roomy.result.length = .ok 2 := by decide
  have hnarrow : narrow.result.length = .error (.responseTooLarge 2 1) := by decide
  obtain ⟨hsession, hlog, -, -, -, -, hnever⟩ :=
    s.requestInto_capacity [0xA2] (Bytes.zeros 13) [0xEE]
  exact ⟨hroom, hnever hroom, hsession, hlog, hroomy, hnarrow⟩

end Session

end Proximity
