import Proximity.Proofs.Session.Surplus

/-! Deselecting takes one exchange with the card, whatever comes of it. -/
namespace Proximity

/-- The next exchange brings an intact frame with a control byte and a field that are `accepted`. -/
def ScriptedCard.Answers (card : ScriptedCard) (capacity : Nat)
    (accepted : Pcb → Bytes → Prop) : Prop :=
  ∃ pcb inf, card.hearing capacity 0 = .ok (Crc.append (pcb :: inf)) ∧ accepted pcb inf

namespace Attempt

theorem requested?_ne_none_iff {outcome : Except Failure Bytes} :
    requested? outcome ≠ none ↔
      ∃ pcb inf, outcome = .ok (Crc.append (pcb :: inf)) ∧ pcb = 0xF2 ∧ inf ≠ [] := by
  rw [Option.ne_none_iff_exists']
  constructor
  · rintro ⟨m, h⟩
    obtain ⟨raw, rest, rfl, hd⟩ := requested?_eq_some_iff.mp h
    obtain ⟨-, rfl⟩ := Block.decode_eq_supervisory_iff.mp hd
    exact ⟨0xF2, m :: rest, rfl, rfl, List.cons_ne_nil m rest⟩
  · rintro ⟨_, inf, rfl, rfl, hinf⟩
    obtain ⟨m, rest, rfl⟩ := List.exists_cons_of_ne_nil hinf
    exact ⟨m, requested?_eq_some_iff.mpr ⟨_, rest, rfl, Block.decode_extension (m :: rest)⟩⟩

theorem exists_conclusion_iff {outcome : Except Failure Bytes} :
    (∃ payload, conclusion outcome = .ok payload) ↔
      ∃ pcb inf, outcome = .ok (Crc.append (pcb :: inf)) ∧ pcb.toNat / 64 = 0 := by
  constructor
  · rintro ⟨payload, h⟩
    obtain ⟨raw, pcb, rfl, hd⟩ := conclusion_eq_ok_iff.mp h
    obtain ⟨hkind, rfl⟩ := Block.decode_eq_information_iff.mp hd
    exact ⟨pcb, payload, rfl, Pcb.kind_eq_information_iff.mp hkind⟩
  · rintro ⟨pcb, inf, rfl, htop⟩
    have hkind : Pcb.kind pcb = .information := Pcb.kind_eq_information_iff.mpr htop
    refine ⟨inf, conclusion_eq_ok_iff.mpr ⟨_, pcb, rfl, ?_⟩⟩
    exact Block.decode_eq_information_iff.mpr ⟨hkind, Frame.toBytes_sealed pcb inf⟩

end Attempt

namespace Session
open Attempt

theorem confirmDeselect_eq_ok_iff {raw : Bytes} :
    confirmDeselect raw = .ok () ↔
      ∃ pcb inf, raw = Crc.append (pcb :: inf) ∧ (pcb = 0xC2 ∨ pcb = 0xCA) := by
  constructor
  · intro h
    unfold confirmDeselect at h
    split at h
    · cases h
    · next pcb inf hd =>
      split_ifs at h with hpcb
      exact ⟨pcb, inf, (Block.decode_eq_supervisory_iff.mp hd).2, Pcb.isDeselect_iff.mp hpcb⟩
    · cases h
  · rintro ⟨pcb, inf, rfl, hpcb⟩
    have hkind : Pcb.kind pcb = .supervisory := by
      rcases hpcb with rfl | rfl <;> decide
    have hd : Block.decode (Crc.append (pcb :: inf)) = .ok (.supervisory pcb inf) :=
      Block.decode_eq_supervisory_iff.mpr ⟨hkind, Frame.toBytes_sealed pcb inf⟩
    simp only [confirmDeselect, hd, Pcb.isDeselect_iff.mpr hpcb, if_true]

theorem confirmed_iff {outcome : Except Failure Bytes} :
    outcome.bind confirmDeselect = .ok () ↔
      ∃ pcb inf, outcome = .ok (Crc.append (pcb :: inf)) ∧ (pcb = 0xC2 ∨ pcb = 0xCA) := by
  cases outcome with
  | error e => simp [Except.bind]
  | ok raw => simp [Except.bind, confirmDeselect_eq_ok_iff]

/-- What neither confirms deselection nor delivers a payload fails in one way for both. -/
theorem failure_alike {outcome : Except Failure Bytes}
    (unconfirmed : outcome.bind confirmDeselect ≠ .ok ())
    (undelivered : ∀ payload, conclusion outcome ≠ .ok payload) :
    ∃ e, outcome.bind confirmDeselect = .error e ∧ conclusion outcome = .error e := by
  cases outcome with
  | error e => exact ⟨e, rfl, rfl⟩
  | ok raw =>
    change confirmDeselect raw ≠ .ok () at unconfirmed
    change ∃ e, confirmDeselect raw = .error e ∧ _
    unfold confirmDeselect at unconfirmed ⊢
    unfold conclusion at undelivered ⊢
    dsimp only at undelivered ⊢
    cases hd : Block.decode raw with
    | error e => cases e <;> exact ⟨_, rfl, rfl⟩
    | ok block =>
      rw [hd] at unconfirmed undelivered
      -- Blocks of use to one of the two are excluded; all others fail by their control byte.
      cases block with
      | information pcb payload => exact absurd rfl (undelivered payload)
      | acknowledge pcb => exact ⟨_, rfl, rfl⟩
      | reserved pcb => exact ⟨_, rfl, rfl⟩
      | supervisory pcb payload =>
        dsimp only at unconfirmed ⊢
        split_ifs at unconfirmed ⊢ with hpcb
        · exact absurd rfl unconfirmed
        · exact ⟨_, rfl, rfl⟩

theorem deselect_scripted (s : Session .active ScriptedCard) :
    s.deselect.result = (s.link.link.hearing s.config.frameCapacity 0).bind confirmDeselect ∧
      s.deselect.session =
        { s with
          link := ⟨s.link.link.after [.whole Frame.deselect.toBytes s.config.frameWait]⟩
          number := .zero } := by
  let heard := listen s.link Frame.deselect.toBytes (Bytes.zeros s.config.frameCapacity)
    s.config.frameWait
  have hat : heard.IsAt s.link.link s.config.frameCapacity 0 := listen_isAt rfl rfl _ _
  have hsent : heard.link.link.sent = _ := sent_listen s.link _ _ _
  have hlink := ScriptedCard.eq_after hat.queue hat.fallback hsent
  constructor
  · rw [← hat.outcome]
    rfl
  · rw [← hlink]
    rfl

/-- An answer of no use to a deselection or a request fails both in one way. -/
theorem request_of_unusable (s : Session .active ScriptedCard)
    (unconfirmed : s.deselect.result ≠ .ok ())
    (undelivered : ¬s.link.link.Answers s.config.frameCapacity fun pcb _ => pcb.toNat / 64 = 0)
    (unextended : ¬s.link.link.Answers s.config.frameCapacity fun pcb inf =>
      pcb = 0xF2 ∧ inf ≠ []) :
    ∃ e, s.deselect.result = .error e ∧ ∀ request, request.length ≤ s.config.maxPayload →
      (s.request request).result = .error e ∧
      ∀ buffer, (s.requestInto request buffer).result = ⟨.error e, buffer⟩ := by
  have hundelivered : ∀ payload,
      conclusion (s.link.link.hearing s.config.frameCapacity 0) ≠ .ok payload :=
    fun payload hpayload => undelivered (exists_conclusion_iff.mp ⟨payload, hpayload⟩)
  have hanswered : requested? (s.link.link.hearing s.config.frameCapacity 0) = none := by
    by_contra hrequested
    exact unextended (requested?_ne_none_iff.mp hrequested)
  rw [s.deselect_scripted.1] at unconfirmed ⊢
  obtain ⟨e, hdeselect, hconclusion⟩ := failure_alike unconfirmed hundelivered
  refine ⟨e, hdeselect, fun request fits => ?_⟩
  obtain ⟨hattempt, -⟩ := s.attempt_answered request hanswered
  rw [hconclusion] at hattempt
  constructor
  · rw [Session.request, s.transact_eq fits, hattempt]
    rfl
  · intro buffer
    rw [s.requestInto_eq fits, hattempt]
    rfl

/-- Deselecting sends one frame, and succeeds just when the next reply confirms it. -/
theorem deselect_once (s : Session .active ScriptedCard) :
    let card := s.link.link
    let capacity := s.config.frameCapacity
    let confirms (pcb : Pcb) (_ : Bytes) : Prop := pcb = 0xC2 ∨ pcb = 0xCA
    let delivers (pcb : Pcb) (_ : Bytes) : Prop := pcb.toNat / 64 = 0
    let asksForTime (pcb : Pcb) (inf : Bytes) : Prop := pcb = 0xF2 ∧ inf ≠ []
    s.deselect.session =
      { link :=
          ⟨{ queue := card.queue.tail
             fallback? := card.fallback?
             sent := card.sent ++ [⟨[0xC2, 0xE0, 0xB4], 24, s.config.frameWait⟩] }⟩
        config := s.config
        number := .zero } ∧
    (∀ raw, card.hearing capacity 0 = .ok raw ↔
      ∃ frame bits, card.next? = some (.answer frame bits) ∧ frame.length ≤ capacity ∧
        24 ≤ bits ∧
        raw = (frame ++ Bytes.zeros (capacity - frame.length)).take (min (bits / 8) capacity)) ∧
    (s.deselect.result = .ok () ↔ card.Answers capacity confirms) ∧
    (¬card.Answers capacity confirms → ¬card.Answers capacity delivers →
      ¬card.Answers capacity asksForTime →
      ∃ e, s.deselect.result = .error e ∧ ∀ request, request.length ≤ s.config.maxPayload →
        (s.request request).result = .error e ∧
        ∀ buffer, (s.requestInto request buffer).result = ⟨.error e, buffer⟩) := by
  intro card capacity confirms delivers asksForTime
  obtain ⟨hresult, hsession⟩ := s.deselect_scripted
  have hframe : Frame.deselect.toBytes = [0xC2, 0xE0, 0xB4] := by decide
  have hconfirmed : s.deselect.result = .ok () ↔ card.Answers capacity confirms := by
    rw [hresult]
    exact confirmed_iff
  refine ⟨?_, fun raw => ScriptedCard.hearing_zero_eq_ok_iff, hconfirmed, fun unconfirmed => ?_⟩
  · rw [hsession, hframe, ScriptedCard.after, List.length_singleton, List.drop_one]
    rfl
  · exact s.request_of_unusable (mt hconfirmed.mp unconfirmed)

theorem deselect_once_acknowledged :
    let s : Session .active ScriptedCard :=
      ⟨⟨{ queue := [.whole (Crc.append [0xA2])] }⟩,
        { frameCapacity := 16, maxResponse := 13 }, .one⟩
    let card := s.link.link
    (¬card.Answers 16 fun pcb _ => pcb = 0xC2 ∨ pcb = 0xCA) ∧
      (¬card.Answers 16 fun pcb _ => pcb.toNat / 64 = 0) ∧
      (¬card.Answers 16 fun pcb inf => pcb = 0xF2 ∧ inf ≠ []) ∧
      [0x00].length ≤ s.config.maxPayload ∧
      s.deselect.result = .error (.unsupportedBlock 0xA2) ∧
      (s.request [0x00]).result = .error (.unsupportedBlock 0xA2) := by
  intro s card
  have hheard : card.hearing 16 0 = .ok (Crc.append [0xA2]) := by decide
  have hnot {accepted : Pcb → Bytes → Prop} (h : ∀ inf, ¬accepted 0xA2 inf) :
      ¬card.Answers 16 accepted := by
    rintro ⟨pcb, inf, hraw, haccepted⟩
    rw [hheard] at hraw
    obtain ⟨rfl, -⟩ := List.cons.inj (Except.ok.inj hraw)
    exact h inf haccepted
  have unconfirmed : ¬card.Answers 16 fun pcb _ => pcb = 0xC2 ∨ pcb = 0xCA :=
    hnot fun _ => by decide
  have undelivered : ¬card.Answers 16 fun pcb _ => pcb.toNat / 64 = 0 :=
    hnot fun _ => by decide
  have unextended : ¬card.Answers 16 fun pcb inf => pcb = 0xF2 ∧ inf ≠ [] :=
    hnot fun _ h => absurd h.1 (by decide)
  have fits : [0x00].length ≤ s.config.maxPayload := by decide
  have hresult : s.deselect.result = .error (.unsupportedBlock 0xA2) := by decide
  obtain ⟨-, -, -, hfailure⟩ := s.deselect_once
  obtain ⟨e, hdeselect, hrequest⟩ := hfailure unconfirmed undelivered unextended
  obtain rfl : e = .unsupportedBlock 0xA2 := Except.error.inj (hdeselect.symm.trans hresult)
  exact ⟨unconfirmed, undelivered, unextended, fits, hresult, (hrequest [0x00] fits).1⟩

end Session

end Proximity
