import Proximity.Proofs.Session.Capacity

/-! Responses split into data and status word, after all that is exchanged and noted. -/
namespace Proximity

namespace Session

section
variable {σ : Type} [Link σ]

theorem number_request_of_ok (s : Session .active σ) {request payload : Bytes}
    (h : (s.request request).result = .ok payload) :
    (s.request request).session.number = s.number.toggle := by
  have hnumber : (s.request request).session.number =
      if delivered (s.request request).result then s.number.toggle else s.number :=
    s.number_transact request s.config.maxResponse
  rw [hnumber, h]
  rfl

theorem requestApdu_of_error (s : Session .active σ) {request : Bytes} {e : Failure}
    (h : (s.request request).result = .error e) :
    (s.requestApdu request).result = .error (.attempt e) := by
  simp only [requestApdu, Turn.map, h]

theorem requestApdu_of_ok (s : Session .active σ) {request payload : Bytes}
    (h : (s.request request).result = .ok payload) :
    (s.requestApdu request).result = (ResponseApdu.parse payload).mapError .invalidLength := by
  simp only [requestApdu, Turn.map, h]

theorem short_of_invalidLength (s : Session .active σ) {request : Bytes} {e : LengthError}
    (h : (s.requestApdu request).result = .error (.invalidLength e)) :
    ∃ payload, (s.request request).result = .ok payload ∧ payload.length < 2 := by
  cases hplain : (s.request request).result with
  | error e =>
    rw [s.requestApdu_of_error hplain] at h
    cases h
  | ok payload =>
    refine ⟨payload, rfl, ?_⟩
    by_contra hlong
    obtain ⟨data, sw1, sw2, rfl⟩ := Bytes.exists_append_pair (Nat.not_lt.mp hlong)
    rw [s.requestApdu_of_ok hplain, ResponseApdu.parse_append] at h
    cases h

end

/-- An attempt whose last exchange brings an information block ends with its payload. -/
theorem attempt_of_delivery (s : Session .active ScriptedCard) {request raw inf : Bytes} {pcb : Pcb}
    {k : Nat}
    (hsent : (s.attempt request).link.link.sent.length = s.link.link.sent.length + (k + 1))
    (hraw : s.link.link.hearing s.config.frameCapacity k = .ok raw)
    (hd : Block.decode raw = .ok (.information pcb inf)) :
    (s.attempt request).outcome = .ok inf := by
  obtain ⟨last, hlast, hout⟩ := s.attempt_last request
  have hk : last = k := Nat.succ.inj (Nat.add_left_cancel (hlast.symm.trans hsent))
  have hanswered : Attempt.requested? (.ok raw) = none := by simp only [Attempt.requested?, hd]
  rw [hout, hk, hraw, hanswered]
  exact Attempt.conclusion_eq_ok_iff.mpr ⟨raw, pcb, rfl, hd⟩

theorem request_of_delivery (s : Session .active ScriptedCard) {request raw inf : Bytes} {pcb : Pcb}
    {k : Nat}
    (hsent : (s.request request).session.link.link.sent.length =
      s.link.link.sent.length + (k + 1))
    (hraw : s.link.link.hearing s.config.frameCapacity k = .ok raw)
    (hd : Block.decode raw = .ok (.information pcb inf)) :
    (s.request request).session.number = s.number.toggle ∧
      (s.request request).result =
        if inf.length ≤ s.config.maxResponse then .ok inf
        else .error (.responseTooLarge inf.length s.config.maxResponse) := by
  by_cases fits : request.length ≤ s.config.maxPayload
  · have hturn : s.request request = _ := s.transact_eq fits s.config.maxResponse
    rw [hturn] at hsent ⊢
    rw [s.attempt_of_delivery hsent hraw hd]
    exact ⟨rfl, accept_eq _ _⟩
  · rw [s.request_of_oversized (Nat.not_le.mp fits)] at hsent
    dsimp only at hsent
    omega

/-- A request for a response in two parts does what a plain one does, and fails of itself only for
want of two bytes. -/
theorem requestApdu_refines (s : Session .active ScriptedCard) (request : Bytes) :
    let turn := s.requestApdu request
    let plain := s.request request
    turn.session = plain.session ∧ turn.log = plain.log ∧
    (∀ e, plain.result = .error e → turn.result = .error (.attempt e)) ∧
    (∀ v, plain.result = .ok v → v.length < 2 →
      turn.result = .error (.invalidLength ⟨2, v.length⟩) ∧
        turn.session.number = s.number.toggle) ∧
    (∀ v, plain.result = .ok v → 2 ≤ v.length →
      ∃ data sw1 sw2, v = data ++ [sw1, sw2] ∧
        let apdu : ResponseApdu := ⟨data, ⟨sw1, sw2⟩⟩
        turn.result = .ok apdu ∧ Bytes.wordAt v data.length = .ok apdu.status.toUInt16 ∧
        (apdu.isSuccess = true ↔ [0x90, 0x00] <:+ v)) ∧
    (∀ k raw pcb inf,
      turn.session.link.link.sent.length = s.link.link.sent.length + (k + 1) →
      s.link.link.hearing s.config.frameCapacity k = .ok raw →
      Block.decode raw = .ok (.information pcb inf) →
      turn.session.number = s.number.toggle ∧
        plain.result =
          (if inf.length ≤ s.config.maxResponse then .ok inf
          else .error (.responseTooLarge inf.length s.config.maxResponse)) ∧
        (2 ≤ inf.length → ∀ e, turn.result ≠ .error (.invalidLength e))) ∧
    (request.length ≤ s.config.maxPayload →
      Checked.request s request = .ok plain ∧ Checked.requestApdu s request = .ok turn) := by
  intro turn plain
  refine ⟨rfl, rfl, fun e h => s.requestApdu_of_error h, fun v h hshort => ⟨?_, ?_⟩,
    fun v h hlong => ?_, fun k raw pcb inf hsent hraw hd => ?_, fun fits => ?_⟩
  · rw [s.requestApdu_of_ok h, ResponseApdu.parse_of_short hshort]
    rfl
  · exact s.number_request_of_ok h
  · obtain ⟨data, sw1, sw2, rfl⟩ := Bytes.exists_append_pair hlong
    refine ⟨data, sw1, sw2, rfl, ?_, Bytes.wordAt_append_pair data sw1 sw2,
      ResponseApdu.isSuccess_iff data sw1 sw2⟩
    rw [s.requestApdu_of_ok h, ResponseApdu.parse_append]
    rfl
  · obtain ⟨hnumber, hplain⟩ := s.request_of_delivery hsent hraw hd
    refine ⟨hnumber, hplain, fun hlong e he => ?_⟩
    obtain ⟨payload, hok, hshort⟩ := s.short_of_invalidLength he
    rw [hok] at hplain
    split_ifs at hplain
    obtain rfl := Except.ok.inj hplain
    omega
  · have hfits : ¬s.config.maxPayload < request.length := Nat.not_lt.mpr fits
    rw [Checked.request_eq, Checked.requestApdu_eq, if_neg hfits, if_neg hfits]
    exact ⟨rfl, rfl⟩

theorem requestApdu_refines_half :
    let s : Session .active ScriptedCard :=
      ⟨⟨{ queue := [.whole [0xF2, 0x03, 0x83, 0x63], .whole (Crc.append [0x02, 0x90])] }⟩,
        { frameCapacity := 16, maxResponse := 13 }, .zero⟩
    let turn := s.requestApdu [0xA2]
    (s.request [0xA2]).result = .ok [0x90] ∧ ([0x90] : Bytes).length < 2 ∧
      turn.result = .error (.invalidLength ⟨2, 1⟩) ∧ turn.session.number = .one ∧
      turn.session.link.link.queue = [] := by
  intro s turn
  have hplain : (s.request [0xA2]).result = .ok [0x90] := by decide
  have hshort : ([0x90] : Bytes).length < 2 := by decide
  have hqueue : turn.session.link.link.queue = [] := by decide
  obtain ⟨-, -, -, hhalf, -⟩ := s.requestApdu_refines [0xA2]
  obtain ⟨hresult, hnumber⟩ := hhalf _ hplain hshort
  exact ⟨hplain, hshort, hresult, hnumber, hqueue⟩

end Session

end Proximity
