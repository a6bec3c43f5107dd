import Proximity.Proofs.Session.Transact

/-! What a request leaves of the caller's buffer and of the session. -/
namespace Proximity

theorem Bytes.take_overwrite (back front : Bytes) :
    (overwrite back front).take front.length = front :=
  List.take_left

theorem Bytes.drop_overwrite (back front : Bytes) :
    (overwrite back front).drop front.length = back.drop front.length :=
  List.drop_left

theorem BlockNumber.toggle_ne (n : BlockNumber) : n.toggle ≠ n := by
  cases n <;> decide

theorem delivered_eq_true_iff {α : Type} {result : Except Failure α} :
    delivered result = true ↔
      (∃ a, result = .ok a) ∨
        ∃ length capacity, result = .error (.responseTooLarge length capacity) := by
  cases result with
  | ok a => simp [delivered]
  | error e => cases e <;> simp [delivered, Failure.followsDelivery]

namespace Filled

theorem buffer_of_error {buffer : Bytes} {outcome : Except Failure Bytes} {e : Failure}
    (h : (ofOutcome buffer outcome).length = .error e) :
    (ofOutcome buffer outcome).buffer = buffer := by
  cases outcome with
  | error e => rfl
  | ok payload =>
    by_cases hfit : payload.length ≤ buffer.length
    · simp [ofOutcome, hfit] at h
    · simp [ofOutcome, hfit]

theorem exists_payload_of_ok {buffer : Bytes} {outcome : Except Failure Bytes} {n : Nat}
    (h : (ofOutcome buffer outcome).length = .ok n) :
    ∃ payload, outcome = .ok payload ∧ payload.length = n ∧ n ≤ buffer.length ∧
      (ofOutcome buffer outcome).buffer = Bytes.overwrite buffer payload := by
  cases outcome with
  | error e => cases h
  | ok payload =>
    by_cases hfit : payload.length ≤ buffer.length
    · have hn : payload.length = n := by simpa [ofOutcome, hfit] using h
      have hbuffer : (ofOutcome buffer (.ok payload)).buffer = Bytes.overwrite buffer payload := by
        simp [ofOutcome, hfit]
      exact ⟨payload, rfl, hn, hn ▸ hfit, hbuffer⟩
    · simp [ofOutcome, hfit] at h

end Filled

namespace Session

section
variable {σ : Type} [Link σ]

theorem requestInto_of_oversized (s : Session .active σ) {request : Bytes}
    (h : s.config.maxPayload < request.length) (buffer : Bytes) :
    s.requestInto request buffer =
      ⟨⟨.error (.oversized ⟨request.length, s.config.maxPayload⟩), buffer⟩, s, []⟩ := by
  rw [requestInto, s.transact_of_oversized h]
  rfl

theorem buffer_requestInto_of_error (s : Session .active σ) {request buffer : Bytes} {e : Failure}
    (h : (s.requestInto request buffer).result.length = .error e) :
    (s.requestInto request buffer).result.buffer = buffer := by
  by_cases fits : request.length ≤ s.config.maxPayload
  · rw [s.requestInto_eq fits] at h ⊢
    exact Filled.buffer_of_error h
  · rw [s.requestInto_of_oversized (Nat.not_le.mp fits)]

theorem delivered_requestInto (s : Session .active σ) (request buffer : Bytes) :
    delivered (s.requestInto request buffer).result.length =
      delivered (s.transact request buffer.length).result := by
  rw [requestInto, Turn.map]
  cases (s.transact request buffer.length).result <;> rfl

theorem number_requestInto_ne_iff (s : Session .active σ) (request buffer : Bytes) :
    (s.requestInto request buffer).session.number ≠ s.number ↔
      (∃ n, (s.requestInto request buffer).result.length = .ok n) ∨
        ∃ length capacity, (s.requestInto request buffer).result.length =
          .error (.responseTooLarge length capacity) := by
  have hnumber : (s.requestInto request buffer).session.number =
      if delivered (s.requestInto request buffer).result.length then s.number.toggle
      else s.number := by
    rw [delivered_requestInto]
    exact s.number_transact request buffer.length
  rw [← delivered_eq_true_iff, hnumber]
  cases delivered (s.requestInto request buffer).result.length with
  | true => simp [BlockNumber.toggle_ne]
  | false => simp

end

/-- A payload is the doing of the exchange that came last. -/
theorem exists_hearing_of_attempt (s : Session .active ScriptedCard) {request payload : Bytes}
    (h : (s.attempt request).outcome = .ok payload) :
    ∃ k raw pcb,
      (s.attempt request).link.link.sent.length = s.link.link.sent.length + (k + 1) ∧
      s.link.link.hearing s.config.frameCapacity k = .ok raw ∧
      Block.decode raw = .ok (.information pcb payload) := by
  obtain ⟨k, hsent, hout⟩ := s.attempt_last request
  rw [h] at hout
  split at hout
  · cases hout
  · obtain ⟨raw, pcb, hraw, hd⟩ := Attempt.conclusion_eq_ok_iff.mp hout.symm
    exact ⟨k, raw, pcb, hsent, hraw, hd⟩

theorem exists_hearing_of_ok (s : Session .active ScriptedCard) {request buffer : Bytes} {n : Nat}
    (h : (s.requestInto request buffer).result.length = .ok n) :
    ∃ k raw pcb payload,
      (s.requestInto request buffer).session.link.link.sent.length =
        s.link.link.sent.length + (k + 1) ∧
      s.link.link.hearing s.config.frameCapacity k = .ok raw ∧
      Block.decode raw = .ok (.information pcb payload) ∧
      payload.length = n ∧ n ≤ buffer.length ∧
      (s.requestInto request buffer).result.buffer = Bytes.overwrite buffer payload := by
  by_cases fits : request.length ≤ s.config.maxPayload
  · rw [s.requestInto_eq fits] at h ⊢
    obtain ⟨payload, hout, hn, hle, hbuffer⟩ := Filled.exists_payload_of_ok h
    obtain ⟨k, raw, pcb, hsent, hraw, hd⟩ := s.exists_hearing_of_attempt hout
    exact ⟨k, raw, pcb, payload, hsent, hraw, hd, hn, hle, hbuffer⟩
  · rw [s.requestInto_of_oversized (Nat.not_le.mp fits)] at h
    cases h

/-- A request fails without a trace in the buffer, or the buffer begins with the payload of the last
block. The number moves on just when a payload arrived. -/
theorem requestInto_atomic (s : Session .active ScriptedCard) (request buffer : Bytes) :
    let turn := s.requestInto request buffer
    (∀ e, turn.result.length = .error e → turn.result.buffer = buffer) ∧
    (∀ n, turn.result.length = .ok n →
      n ≤ buffer.length ∧ turn.result.buffer.length = buffer.length ∧
        turn.result.buffer.drop n = buffer.drop n ∧
        ∃ k raw pcb,
          turn.session.link.link.sent.length = s.link.link.sent.length + (k + 1) ∧
          s.link.link.hearing s.config.frameCapacity k = .ok raw ∧
          Block.decode raw = .ok (.information pcb (turn.result.buffer.take n))) ∧
    turn.session.config = s.config ∧
    (turn.session.number ≠ s.number ↔
      (∃ n, turn.result.length = .ok n) ∨
        ∃ length capacity, turn.result.length = .error (.responseTooLarge length capacity)) := by
  intro turn
  refine ⟨fun e h => s.buffer_requestInto_of_error h, fun n h => ?_,
    s.config_transact request buffer.length, s.number_requestInto_ne_iff request buffer⟩
  obtain ⟨k, raw, pcb, payload, hsent, hraw, hd, hn, hle, hbuffer⟩ := s.exists_hearing_of_ok h
  subst hn
  refine ⟨hle, ?_, ?_, k, raw, pcb, hsent, hraw, ?_⟩
  · rw [hbuffer, Bytes.length_overwrite hle]
  · rw [hbuffer, Bytes.drop_overwrite]
  · rw [hbuffer, Bytes.take_overwrite]
    exact hd

theorem requestInto_atomic_extended_once :
    let s : Session .active ScriptedCard :=
      ⟨⟨{ queue := [.whole [0xF2, 0x03, 0x83, 0x63], .whole [0x02, 0x90, 0x00, 0xF1, 0x09]] }⟩,
        { frameCapacity := 16, maxResponse := 13 }, .zero⟩
    let roomy := s.requestInto [0xA2] [0xEE, 0xEE, 0xEE]
    let narrow := s.requestInto [0xA2] [0xEE]
    roomy.result.length = .ok 2 ∧ roomy.result.buffer.drop 2 = [0xEE] ∧
      roomy.session.number ≠ s.number ∧
      narrow.result.length = .error (.responseTooLarge 2 1) ∧ narrow.result.buffer = [0xEE] ∧
      narrow.session.number ≠ s.number := by
  intro s roomy narrow
  have hroomy : roomy.result.length = .ok 2 := by decide
  have hnarrow : narrow.result.length = .error (.responseTooLarge 2 1) := by decide
  obtain ⟨-, hok, -, hmoved⟩ := s.requestInto_atomic [0xA2] [0xEE, 0xEE, 0xEE]
  obtain ⟨herror, -, -, hkept⟩ := s.requestInto_atomic [0xA2] [0xEE]
  exact ⟨hroomy, (hok 2 hroomy).2.2.1, hmoved.mpr (.inl ⟨2, hroomy⟩), hnarrow, herror _ hnarrow,
    hkept.mpr (.inr ⟨2, 1, hnarrow⟩)⟩

end Session

end Proximity
