import Proximity.Proofs.Frame.Image
import Proximity.Proofs.Reader.Numbering
import Proximity.Proofs.WaitingTime.Extended

/-! How long a link is told to wait for what follows an acknowledgement. -/
namespace Proximity

/-- If `t` acknowledges a request for time, then with the wait that the request stretches `wait` to. -/
def Transmission.Stretches (wait : UInt64) (t : Transmission) : Prop :=
  ∀ m, t.frame = (Frame.extension m).toBytes → t.wait = WaitingTime.extended wait m

theorem Transmission.stretches_whole {frame : Frame} (h : frame.pcb ≠ Pcb.extension)
    (wait base : UInt64) : (Transmission.whole frame.toBytes wait).Stretches base := by
  intro m hframe
  have hsame : frame = Frame.extension m := Frame.toBytes_injective hframe
  exact absurd (congrArg Frame.pcb hsame) h

theorem Attempt.stretches_acknowledgement (wait : UInt64) (m : UInt8) :
    (acknowledgement wait m).Stretches wait := by
  intro m' hframe
  have hsame : Frame.extension m = Frame.extension m' := Frame.toBytes_injective hframe
  obtain ⟨rfl, -⟩ := List.cons.inj (congrArg Frame.inf hsame)
  rfl

section
variable {σ : Type} [Recording σ]

/-- The link was sent `ts`, and none of it with a wait out of place. -/
structure Sends (base : UInt64) (before after : σ) (ts : List Transmission) : Prop where
  sent : Recording.sent after = Recording.sent before ++ ts
  stretches : ∀ t ∈ ts, t.Stretches base

theorem Sends.nothing (base : UInt64) (link : σ) : Sends base link link [] where
  sent := (List.append_nil _).symm
  stretches := by simp

theorem Sends.append {base : UInt64} {first second third : σ} {ts us : List Transmission}
    (h : Sends base first second ts) (h' : Sends base second third us) :
    Sends base first third (ts ++ us) where
  sent := by rw [h'.sent, h.sent, List.append_assoc]
  stretches t ht := (List.mem_append.mp ht).elim (h.stretches t) (h'.stretches t)

/-- A request opens with a frame of its own kind, and all that follows are acknowledgements. -/
theorem Session.sends_transact (s : Session .active σ) (request : Bytes) (capacity : Nat) :
    ∃ ts, Sends s.config.frameWait s.link.link
      (s.transact request capacity).session.link.link ts := by
  by_cases fits : request.length ≤ s.config.maxPayload
  · obtain ⟨ms, hsent⟩ := Attempt.sent_run s.config s.number s.link
      (Frame.sealed (Pcb.information s.number) request).toBytes
    refine ⟨s.opening request :: ms.map (Attempt.acknowledgement s.config.frameWait), ?_, ?_⟩
    · rw [s.transact_eq fits]
      exact hsent
    · have hopening : Pcb.information s.number ≠ Pcb.extension := by cases s.number <;> decide
      refine List.forall_mem_cons.mpr ⟨Transmission.stretches_whole hopening _ _, fun t ht => ?_⟩
      obtain ⟨m, -, rfl⟩ := List.mem_map.mp ht
      exact Attempt.stretches_acknowledgement _ m
  · rw [s.transact_of_oversized (Nat.not_le.mp fits)]
    exact ⟨[], Sends.nothing _ _⟩

namespace Reader

theorem Moves.sends {reader : Reader σ} {command : Command} {step : Step σ} {config : Config}
    (h : Moves reader command step) (hconfig : reader.config? = some config) :
    ∃ ts, Sends config.frameWait reader.link step.reader.link ts := by
  cases h with
  | activate s => exact ⟨[], Sends.nothing _ _⟩
  | release s => exact ⟨[], Sends.nothing _ _⟩
  | resetSequence s => exact ⟨[], Sends.nothing _ _⟩
  | deselect s =>
    have hdeselect : Frame.deselect.pcb ≠ Pcb.extension := by decide
    refine ⟨[.whole Frame.deselect.toBytes s.config.frameWait], Attempt.sent_listen s.link _ _ _, ?_⟩
    exact List.forall_mem_singleton.mpr (Transmission.stretches_whole hdeselect _ _)
  | @request s _ bytes _ capacity _ hreader _ _ =>
    cases hconfig
    rw [hreader]
    exact s.sends_transact bytes capacity

theorem Run.sends {start : Session .idle σ} (fresh : start.Fresh) {entries : List (Entry σ)}
    {reader : Reader σ} (h : Run (.idle start) entries reader) :
    ∃ ts, Sends start.config.frameWait start.link.link reader.link ts := by
  induction h with
  | nil => exact ⟨[], Sends.nothing _ _⟩
  | snoc hrun hc hstep ih =>
    obtain ⟨ts, hts⟩ := ih
    obtain ⟨us, hus⟩ := (moves_of_step? hc hstep).sends (hrun.numbered fresh).config?
    exact ⟨ts ++ us, hts.append hus⟩

end Reader

end

namespace Reader

/-- The wait for an extension is the configured one times the multiplier, up to the longest. It is
what goes out with acknowledgements on every run of a built session. -/
theorem waits_stretched :
    (∀ base m, (WaitingTime.extended base m).toNat =
      min (base.toNat * max 1 (min 59 (m.toNat % 64))) 4949) ∧
    (∀ base base' m m', base ≤ base' → m.toNat % 64 ≤ m'.toNat % 64 →
      WaitingTime.extended base m ≤ WaitingTime.extended base' m') ∧
    (∀ base m m', m &&& 0x3F = m' &&& 0x3F →
      WaitingTime.extended base m = WaitingTime.extended base m') ∧
    (∀ base m, base ≤ WaitingTime.extended base m ↔ base.toNat ≤ 4949) ∧
    ∀ {σ : Type} [Recording σ] {setup : Setup σ} {start : Session .idle σ}
        {entries : List (Entry σ)} {reader : Reader σ},
      setup.build = .ok start → Run (.idle start) entries reader →
      ∃ ts, Recording.sent reader.link = Recording.sent start.link.link ++ ts ∧
        ∀ t ∈ ts, ∀ m, t.frame = Crc.append [0xF2, m] →
          1 ≤ t.wait.toNat ∧ t.wait.toNat ≤ 4949 ∧
            (start.config.frameWait ≤ t.wait ↔ start.config.frameWait.toNat ≤ 4949) := by
  refine ⟨WaitingTime.toNat_extended, fun base base' m m' => WaitingTime.extended_le_extended,
    fun base m m' => WaitingTime.extended_congr base, fun base m => WaitingTime.le_extended_iff, ?_⟩
  intro σ _ setup start entries reader built hrun
  obtain ⟨-, hwait, -⟩ := Config.validate_eq_ok_iff.mp (Setup.validate_of_build built)
  obtain ⟨ts, hts⟩ := hrun.sends (.inr ⟨setup, built⟩)
  refine ⟨ts, hts.sent, fun t ht m hframe => ?_⟩
  have hstretched : t.wait = WaitingTime.extended start.config.frameWait m :=
    hts.stretches t ht m hframe
  rw [hstretched]
  exact ⟨WaitingTime.extended_pos hwait m, WaitingTime.extended_le_longest _ m,
    WaitingTime.le_extended_iff⟩

/-- A card that asks for triple time gets half a second less than it would have had anyway. -/
theorem waits_stretched_capped :
    let start : Session .idle (Recorded ScriptedCard) :=
      .start ⟨⟨{ queue := [.whole [0xF2, 0x03, 0x83, 0x63], .whole [0x02, 0x90, 0x00, 0xF1, 0x09]] },
        []⟩⟩ { frameCapacity := 16, frameWait := 5449, maxResponse := 13 }
    let setup : Setup (Recorded ScriptedCard) := ⟨some start.link, start.config⟩
    let s := start.activate
    let step : Step (Recorded ScriptedCard) := .ofTurn .response (s.request [0xA2])
    let entries : List (Entry (Recorded ScriptedCard)) :=
      [⟨.idle start, .activate, .silent (.active s)⟩, ⟨.active s, .request [0xA2], step⟩]
    setup.build = .ok start ∧ Run (.idle start) entries step.reader ∧
      (∃ opening, Recording.sent step.reader.link =
        [opening, .whole [0xF2, 0x03, 0x83, 0x63] 4949]) ∧
      ¬start.config.frameWait ≤ 4949 ∧
      WaitingTime.extended 500 0x03 ≤ WaitingTime.extended 600 0x04 ∧
      WaitingTime.extended 500 0x03 = WaitingTime.extended 500 0xC3 := by
  intro start setup s step entries
  have hbuilt : setup.build = .ok start := rfl
  have hactivate : (Reader.idle start).step? .activate = some (.silent (.active s)) := rfl
  have hstep : (Reader.active s).step? (.request [0xA2]) = some step := rfl
  have hrun : Run (.idle start) entries step.reader := .snoc (.snoc .nil rfl hactivate) rfl hstep
  obtain ⟨-, hmono, hmask, -, hruns⟩ := waits_stretched
  obtain ⟨ts, hsent, hwaits⟩ := hruns hbuilt hrun
  have hts : ts = Recording.sent step.reader.link := hsent.symm
  have hacknowledged : Recording.sent step.reader.link =
      [s.opening [0xA2], .whole [0xF2, 0x03, 0x83, 0x63] 4949] := by decide +kernel
  have hframe : [0xF2, 0x03, 0x83, 0x63] = Crc.append [0xF2, 0x03] := by decide
  have hmem : Transmission.whole [0xF2, 0x03, 0x83, 0x63] 4949 ∈ ts := by
    rw [hts, hacknowledged]
    exact List.mem_cons_of_mem _ List.mem_cons_self
  obtain ⟨-, -, hshort⟩ := hwaits _ hmem 0x03 hframe
  exact ⟨hbuilt, hrun, ⟨_, hacknowledged⟩, fun hle => absurd (hshort.mp hle) (by decide),
    hmono 500 600 0x03 0x04 (by decide) (by decide), hmask 500 0x03 0xC3 (by decide)⟩

end Reader

end Proximity
