import Proximity.Proofs.Session.Transact

/-! The outcome of one attempt over every script. -/
namespace Proximity.Session
open Attempt

/-- With more leading requests than the budget allows the attempt fails. With no more, the exchange
behind them ends it. -/
theorem requestInto_outcome (s : Session .active ScriptedCard) (request buffer : Bytes)
    (fits : request.length ≤ s.config.maxPayload) :
    let card := s.link.link
    let requests := card.leadingRequests s.config.frameCapacity
    let turn := s.requestInto request buffer
    (s.config.maxExtensions < requests →
      turn.result = ⟨.error (.extensionsExceeded s.config.maxExtensions), buffer⟩ ∧
      turn.session.number = s.number ∧
      ∃ ms : List UInt8, ms.length = s.config.maxExtensions ∧
        turn.session.link.link =
          card.after (s.opening request :: ms.map (acknowledgement s.config.frameWait))) ∧
    (requests ≤ s.config.maxExtensions → ∃ k : ℕ, requests = k ∧
      turn.result = .ofOutcome buffer (conclusion (card.hearing s.config.frameCapacity k)) ∧
      turn.session.number =
        s.number.following (conclusion (card.hearing s.config.frameCapacity k)) ∧
      ∃ ms : List UInt8, ms.length = k ∧
        turn.session.link.link =
          card.after (s.opening request :: ms.map (acknowledgement s.config.frameWait))) := by
  intro card requests turn
  obtain ⟨ms, -, hlink, hend⟩ := s.attempt_scripted request
  have hturn : turn = _ := s.requestInto_eq fits buffer
  rcases hend with ⟨hlt, hlen, hout⟩ | ⟨hk, hle, hout⟩
  · refine ⟨fun _ => ?_, fun h => absurd hlt (not_lt.mpr h)⟩
    simp only [hturn, hout, hlink]
    exact ⟨rfl, rfl, ms, hlen, rfl⟩
  · refine ⟨fun h => ?_, fun _ => ⟨ms.length, hk, ?_⟩⟩
    · have hspent : (s.config.maxExtensions : ℕ∞) < ms.length := by
        rw [← hk]
        exact h
      exact absurd (by exact_mod_cast hspent) (Nat.not_lt.mpr hle)
    · simp only [hturn, hout, hlink]
      exact ⟨rfl, rfl, ms, rfl, rfl⟩

theorem requestInto_outcome_extended_once :
    let s : Session .active ScriptedCard :=
      ⟨⟨{ queue := [.whole [0xF2, 0x03, 0x83, 0x63], .whole [0x02, 0x90, 0x00, 0xF1, 0x09]] }⟩,
        { frameCapacity := 16, maxResponse := 13 }, .zero⟩
    [0xA2, 0x01].length ≤ s.config.maxPayload ∧ s.link.link.leadingRequests 16 = 1 ∧
      (s.requestInto [0xA2, 0x01] [0xEE, 0xEE, 0xEE]).result = ⟨.ok 2, [0x90, 0x00, 0xEE]⟩ := by
  intro s
  have fits : [0xA2, 0x01].length ≤ s.config.maxPayload := by decide
  have hone : s.link.link.leadingRequests 16 = (1 : ℕ) :=
    (ScriptedCard.leadingRequests_eq_iff _ _ _).mpr ⟨by decide, by decide⟩
  have hle : s.link.link.leadingRequests 16 ≤ s.config.maxExtensions := by
    rw [hone]
    exact_mod_cast (by decide : 1 ≤ s.config.maxExtensions)
  obtain ⟨k, hk, hresult, -⟩ := (requestInto_outcome s [0xA2, 0x01] [0xEE, 0xEE, 0xEE] fits).2 hle
  obtain rfl : k = 1 := by exact_mod_cast hk.symm.trans hone
  have hpayload : conclusion (s.link.link.hearing s.config.frameCapacity 1) = .ok [0x90, 0x00] := by
    decide
  rw [hpayload] at hresult
  exact ⟨fits, hone, hresult⟩

end Proximity.Session
