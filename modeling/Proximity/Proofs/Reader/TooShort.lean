import Proximity.Proofs.Attempt.TooShort
import Proximity.Proofs.Reader.Log
import Proximity.Proofs.Reader.Numbering

/-! What a command means by a frame that was too short. -/
namespace Proximity

namespace Session
open Attempt

theorem confirmed_eq_tooShort_iff {outcome : Except Failure Bytes} {n : Nat} :
    outcome.bind confirmDeselect = .error (.frameTooShort n) ↔ tooShort? outcome = some n := by
  cases outcome with
  | error e => cases e <;> simp [Except.bind, tooShort?]
  | ok raw =>
    change confirmDeselect raw = _ ↔ _
    cases hd : Block.decode raw with
    | error e =>
      simp only [confirmDeselect, hd, Except.error.injEq]
      exact ofFrameError_eq_tooShort_iff hd
    | ok block =>
      rw [tooShort?_of_decode hd]
      cases block with
      | supervisory pcb payload => by_cases h : pcb.isDeselect <;> simp [confirmDeselect, hd, h]
      | _ => simp [confirmDeselect, hd]

/-- An attempt fails for a frame too short just when its last exchange brings one. -/
theorem attempt_eq_tooShort_iff (s : Session .active ScriptedCard) (request : Bytes) :
    ∃ k, (s.attempt request).link.link.sent.length = s.link.link.sent.length + (k + 1) ∧
      ∀ n, (s.attempt request).outcome = .error (.frameTooShort n) ↔
        tooShort? (s.heard k) = some n := by
  obtain ⟨k, hsent, hout⟩ := s.attempt_last request
  refine ⟨k, hsent, fun n => ?_⟩
  rw [hout]
  change _ ↔ tooShort? (s.link.link.hearing s.config.frameCapacity k) = some n
  cases hlast : requested? (s.link.link.hearing s.config.frameCapacity k) with
  | none => exact conclusion_eq_tooShort_iff
  | some m =>
    -- What exceeds the budget is a request, and no request is too short.
    constructor
    · rintro ⟨⟩
    · intro h
      rw [requested?_of_tooShort h] at hlast
      cases hlast

end Session

theorem failed?_eq_some_iff {α : Type} {result : Except Failure α} {e : Failure} :
    failed? result = some e ↔ result = .error e := by
  cases result <;> simp [failed?]

namespace Reader

theorem failure_tooShort_deselect (s : Session .active ScriptedCard) {n : Nat} :
    failed? s.deselect.result = some (.frameTooShort n) ↔
      Attempt.tooShort? (s.heard 0) = some n := by
  have hat : (Attempt.listen s.link Frame.deselect.toBytes (Bytes.zeros s.config.frameCapacity)
      s.config.frameWait).IsAt s.link.link s.config.frameCapacity 0 :=
    Attempt.listen_isAt rfl rfl _ _
  rw [failed?_eq_some_iff, Session.heard, ← hat.outcome]
  exact Session.confirmed_eq_tooShort_iff

theorem failure_tooShort_transact (s : Session .active ScriptedCard) {request : Bytes}
    (fits : request.length ≤ s.config.maxPayload) {capacity n : Nat} :
    failed? (s.transact request capacity).result = some (.frameTooShort n) ↔
      (s.attempt request).outcome = .error (.frameTooShort n) := by
  rw [failed?_eq_some_iff, s.transact_eq fits]
  cases (s.attempt request).outcome with
  | error e => simp [Except.bind]
  | ok payload => by_cases h : capacity < payload.length <;> simp [Except.bind, accept, h]

section
variable {s : Session .active ScriptedCard} {command : Command} {step : Step ScriptedCard}
  {ts : List Transmission}

theorem Tells.length_of_fits {bytes : Bytes} (h : Tells s command step ts)
    (hstep : (Reader.active s).step? command = some step) (hb : command.request? = some bytes)
    (fits : bytes.length ≤ s.config.maxPayload) :
    (s.attempt bytes).link.link.sent.length = s.link.link.sent.length + ts.length := by
  obtain ⟨step', capacity, hstep', hreader, -⟩ := step?_request s hb
  obtain rfl := Option.some.inj (hstep'.symm.trans hstep)
  have hlength := h.length
  rw [hreader, s.transact_eq fits] at hlength
  exact hlength

theorem Tells.length_deselect (h : Tells s .deselect step ts)
    (hstep : (Reader.active s).step? .deselect = some step) : ts.length = 1 := by
  cases hstep
  have hone := (tells_deselect s).length
  rw [h.length] at hone
  exact Nat.add_left_cancel hone

/-- A request that fits is sent, so there is at least one exchange. -/
theorem Tells.ne_nil {bytes : Bytes} (h : Tells s command step ts)
    (hstep : (Reader.active s).step? command = some step) (hb : command.request? = some bytes)
    (fits : bytes.length ≤ s.config.maxPayload) : ts ≠ [] := by
  obtain ⟨k, hk, -⟩ := s.attempt_last bytes
  have hlength := h.length_of_fits hstep hb fits
  apply List.ne_nil_of_length_pos
  omega

/-- A command fails for a frame too short just when its last exchange brings one. -/
theorem Tells.failure_tooShort_iff (h : Tells s command step ts)
    (talks : command.request?.isSome = true ∨ command = .deselect)
    (hstep : (Reader.active s).step? command = some step) {n : Nat} :
    step.answer.failure? = some (.frameTooShort n) ↔
      ∃ i, ts.length = i + 1 ∧ Attempt.tooShort? (s.heard i) = some n := by
  rcases talks with hc | rfl
  · obtain ⟨bytes, hb⟩ := Option.isSome_iff_exists.mp hc
    obtain ⟨step', capacity, hstep', hreader, -, -, hfailure⟩ := step?_request s hb
    obtain rfl := Option.some.inj (hstep'.symm.trans hstep)
    rw [hfailure]
    by_cases fits : bytes.length ≤ s.config.maxPayload
    · obtain ⟨k, hk, htooShort⟩ := s.attempt_eq_tooShort_iff bytes
      have hlast : ts.length = k + 1 :=
        Nat.add_left_cancel ((h.length_of_fits hstep hb fits).symm.trans hk)
      rw [failure_tooShort_transact s fits, htooShort, hlast]
      simp
    · have hlength := h.length
      rw [hreader, s.transact_of_oversized (Nat.not_le.mp fits)] at hlength
      rw [s.transact_of_oversized (Nat.not_le.mp fits)]
      have hnone : ts.length = 0 := by
        change s.link.link.sent.length = _ at hlength
        omega
      simp [failed?, hnone]
  · have hlast := h.length_deselect hstep
    cases hstep
    change failed? s.deselect.result = _ ↔ _
    rw [failure_tooShort_deselect, hlast]
    simp

end

theorem Run.room {σ : Type} [Link σ] {setup : Setup σ} {start : Session .idle σ}
    {entries : List (Entry σ)} {s : Session .active σ} (built : setup.build = .ok start)
    (h : Run (.idle start) entries (.active s)) : 3 ≤ s.config.frameCapacity := by
  have hconfig : s.config = start.config :=
    Option.some.inj (h.numbered (.inr ⟨setup, built⟩)).config?
  obtain ⟨hroom, -⟩ := Config.validate_eq_ok_iff.mp (Setup.validate_of_build built)
  rw [hconfig]
  exact Nat.le_of_lt hroom

/-- A frame that is too short has fewer than twenty-four bits, as the link reported them last. Only
where there is no room for a frame are they those of the receive buffer. -/
theorem tooShort_reported (s : Session .active ScriptedCard) {command : Command}
    (talks : command.request?.isSome = true ∨ command = .deselect) :
    let card := s.link.link
    let capacity := s.config.frameCapacity
    ∃ step ts, (Reader.active s).step? command = some step ∧ step.reader.link = card.after ts ∧
      (∀ bytes, command.request? = some bytes → bytes.length ≤ s.config.maxPayload → ts ≠ []) ∧
      (command = .deselect → ts.length = 1) ∧
      (∀ bits, step.answer.failure? = some (.frameTooShort bits) → bits < 24) ∧
      (3 ≤ capacity →
        (∀ bits, step.answer.failure? = some (.frameTooShort bits) ↔
          bits < 24 ∧ ∃ i, ts.length = i + 1 ∧ card.Reports capacity i bits) ∧
        ∀ raw, .received raw ∈ step.log → ∀ length, Block.decode raw ≠ .error (.tooShort length)) ∧
      (capacity < 3 → ∀ i bits, ts.length = i + 1 → card.Reports capacity i bits → 24 ≤ bits →
        step.answer.failure? = some (.frameTooShort (8 * capacity))) ∧
      ∀ {setup : Setup ScriptedCard} {start : Session .idle ScriptedCard}
        {entries : List (Entry ScriptedCard)},
        setup.build = .ok start → Run (.idle start) entries (.active s) → 3 ≤ capacity := by
  intro card capacity
  obtain ⟨step, ts, hstep, htells⟩ := exists_tells s talks
  have hfailure {n : Nat} : step.answer.failure? = some (.frameTooShort n) ↔
      ∃ i, ts.length = i + 1 ∧ ∃ bits, card.Reports capacity i bits ∧
        (bits < 24 ∧ n = bits ∨ 24 ≤ bits ∧ capacity < 3 ∧ n = 8 * capacity) := by
    rw [htells.failure_tooShort_iff talks hstep]
    simp only [Session.heard, ScriptedCard.tooShort?_hearing_iff]
    rfl
  refine ⟨step, ts, hstep, htells.link, fun bytes hb fits => htells.ne_nil hstep hb fits, ?_,
    fun n h => ?_, fun hroom => ⟨fun n => ?_, ?_⟩,
    fun hnarrow i bits hlast hreports henough => ?_, fun built hrun => hrun.room built⟩
  · rintro rfl
    exact htells.length_deselect hstep
  · obtain ⟨i, -, bits, -, hn⟩ := hfailure.mp h
    omega
  · rw [hfailure]
    constructor
    · rintro ⟨i, hlast, bits, hreports, hn⟩
      obtain ⟨hfew, rfl⟩ : bits < 24 ∧ n = bits := by omega
      exact ⟨hfew, i, hlast, hreports⟩
    · rintro ⟨hfew, i, hlast, hreports⟩
      exact ⟨i, hlast, n, hreports, .inl ⟨hfew, rfl⟩⟩
  · intro raw hraw length hd
    obtain ⟨i, -, hheard⟩ := htells.received_mem_iff.mp hraw
    have hlong := ScriptedCard.length_hearing_of_room hroom hheard
    have hshort := (Block.decode_eq_tooShort_iff.mp hd).1
    omega
  · exact hfailure.mpr ⟨i, hlast, bits, hreports, .inr ⟨henough, hnarrow, rfl⟩⟩

/-- A card that sends twelve bits, and one whose buffer of two bytes is reported to be filled. -/
theorem tooShort_reported_twelve :
    let s : Session .active ScriptedCard :=
      ⟨⟨{ queue := [.whole [0xF2, 0x03, 0x83, 0x63], .answer [0x02, 0x90] 12] }⟩,
        { frameCapacity := 16, maxResponse := 13 }, .zero⟩
    let narrow : Session .active ScriptedCard :=
      ⟨⟨{ queue := [.answer [0xC2] (2 ^ 64 - 1)] }⟩, { frameCapacity := 2 }, .one⟩
    (Command.request [0xA2]).request?.isSome = true ∧
      (∃ step, (Reader.active s).step? (.request [0xA2]) = some step ∧
        step.reader.link.sent.length = 2 ∧ s.link.link.Reports 16 1 12 ∧
        step.answer.failure? = some (.frameTooShort 12)) ∧
      ∃ step, (Reader.active narrow).step? .deselect = some step ∧
        narrow.link.link.Reports 2 0 (2 ^ 64 - 1) ∧
        step.answer.failure? = some (.frameTooShort 16) := by
  intro s narrow
  have talks : (Command.request [0xA2]).request?.isSome = true := rfl
  have htwelve : s.link.link.Reports 16 1 12 := ⟨[0x02, 0x90], rfl, by decide⟩
  have hbeyond : narrow.link.link.Reports 2 0 (2 ^ 64 - 1) := ⟨[0xC2], rfl, by decide⟩
  obtain ⟨step, ts, hstep, hlink, -, -, -, hroom, -⟩ := tooShort_reported s (.inl talks)
  obtain ⟨step', ts', hstep', -, -, hone, -, -, hnarrow, -⟩ :=
    tooShort_reported narrow (.inr rfl)
  have hsent : step.reader.link.sent.length = 2 := by
    cases hstep
    decide +kernel
  have hlast : ts.length = 1 + 1 := by rwa [hlink] at hsent
  exact ⟨talks,
    ⟨step, hstep, hsent, htwelve, ((hroom (by decide)).1 12).mpr ⟨by decide, 1, hlast, htwelve⟩⟩,
    step', hstep', hbeyond, hnarrow (by decide) 0 _ (hone rfl) hbeyond (by decide)⟩

end Reader

end Proximity
