import Proximity.Proofs.Reader.Log
import Proximity.Proofs.Setup.Build

/-! Block numbers along a run: the parity of the deliveries since the number last started over. -/
namespace Proximity

/-- A session as it is first had: with an ordinary configuration, or built. -/
def Session.Fresh {σ : Type} (s : Session .idle σ) : Prop :=
  (∃ handle, s = .start handle {}) ∨ ∃ setup : Setup σ, setup.build = .ok s

theorem Session.Fresh.number {σ : Type} {s : Session .idle σ} (h : s.Fresh) : s.number = .zero := by
  rcases h with ⟨handle, rfl⟩ | ⟨setup, hb⟩
  · rfl
  · obtain ⟨-, handle, -, rfl⟩ := Setup.build_eq_ok_iff.mp hb
    rfl

namespace Reader

variable {σ : Type}

/-- An attempt that received an intact information block. -/
def Entry.delivers (e : Entry σ) : Bool :=
  e.command.request?.isSome && e.step.log.any Event.bringsInformation

/-- How many attempts delivered since block numbers last started over. -/
def deliveries (entries : List (Entry σ)) : Nat :=
  (entries.reverse.takeWhile fun e => !e.command.restarts).countP Entry.delivers

theorem deliveries_concat (entries : List (Entry σ)) (e : Entry σ) :
    deliveries (entries ++ [e]) =
      if e.command.restarts then 0
      else if e.delivers then deliveries entries + 1
      else deliveries entries := by
  unfold deliveries
  rw [List.reverse_concat, List.takeWhile_cons]
  cases e.command.restarts with
  | true => rfl
  | false =>
    simp only [Bool.not_false, if_true, List.countP_cons]
    split <;> rfl

theorem deliveries_of_restart {entries : List (Entry σ)} {e : Entry σ}
    (hlast : entries.getLast? = some e) (hr : e.command.restarts = true) :
    deliveries entries = 0 := by
  obtain ⟨init, rfl⟩ := List.getLast?_eq_some_iff.mp hlast
  rw [deliveries_concat, if_pos hr]

section
variable [Link σ]

theorem Moves.config? {reader : Reader σ} {command : Command} {step : Step σ}
    (h : Moves reader command step) : step.reader.config? = reader.config? := by
  cases h with
  | activate s => rfl
  | release s => rfl
  | resetSequence s => rfl
  | deselect s => rfl
  | request capacity _ hr =>
    rw [hr]
    simp [Reader.config?]

theorem restarts_of_request? {command : Command} {bytes : Bytes}
    (h : command.request? = some bytes) : command.restarts = false := by
  cases command <;> first | rfl | cases h

/-- The step of the sequence: a new start, a delivery, or nothing. -/
theorem Moves.number? {reader : Reader σ} {command : Command} {step : Step σ}
    (h : Moves reader command step) {n : BlockNumber} (hn : reader.number? = some n) :
    step.reader.number? = some (if command.restarts then .zero
      else if Entry.delivers ⟨reader, command, step⟩ then n.toggle else n) := by
  cases h with
  | activate s => rfl
  | release s => rfl
  | resetSequence s => rfl
  | deselect s => rfl
  | @request s _ bytes _ capacity hb hr hlog _ =>
    cases hn
    rw [hr]
    simp only [Reader.number?, Entry.delivers, restarts_of_request? hb, hb, hlog,
      s.number_transact, s.delivered_transact, Option.isSome_some, Bool.true_and]
    rfl

theorem Moves.delivers_iff {reader : Reader σ} {command : Command} {step : Step σ}
    (h : Moves reader command step) (ha : command.request?.isSome = true) :
    Entry.delivers ⟨reader, command, step⟩ = step.answer.delivered := by
  cases h with
  | activate s => cases ha
  | release s => cases ha
  | resetSequence s => cases ha
  | deselect s => cases ha
  | @request s _ bytes _ capacity hb hr hlog hanswer =>
    rw [Entry.delivers, hanswer, s.delivered_transact, ha, hlog]
    rfl

/-- Where a run stands: on the configuration it started with, idle with number zero or active with
the parity of its deliveries. -/
structure Numbered (config : Config) (entries : List (Entry σ)) (reader : Reader σ) : Prop where
  config? : reader.config? = some config
  number? : ∃ n, reader.number? = some n ∧ n.toNat = deliveries entries % 2
  idle : ∀ s, reader = .idle s → s.number = .zero

theorem Moves.numbered {config : Config} {entries : List (Entry σ)} {reader : Reader σ}
    {command : Command} {step : Step σ} (h : Moves reader command step)
    (hr : Numbered config entries reader) :
    Numbered config (entries ++ [⟨reader, command, step⟩]) step.reader := by
  obtain ⟨n, hn, hpar⟩ := hr.number?
  refine ⟨h.config?.trans hr.config?, ⟨_, h.number? hn, ?_⟩, ?_⟩
  · rw [deliveries_concat]
    by_cases hrestart : command.restarts = true
    · rw [if_pos hrestart, if_pos hrestart]
      rfl
    · rw [if_neg hrestart, if_neg hrestart]
      by_cases hd : Entry.delivers ⟨reader, command, step⟩ = true
      · rw [if_pos hd, if_pos hd, BlockNumber.toNat_toggle, hpar, Nat.mod_add_mod]
      · rw [if_neg hd, if_neg hd, hpar]
  · intro s hs
    cases h with
    | release s' =>
      cases hs
      rfl
    | request _ _ hr' => cases hr'.symm.trans hs
    | activate s' => cases hs
    | resetSequence s' => cases hs
    | deselect s' => cases hs

theorem Run.numbered {start : Session .idle σ} (fresh : start.Fresh) {entries : List (Entry σ)}
    {reader : Reader σ} (h : Run (.idle start) entries reader) :
    Numbered start.config entries reader := by
  induction h with
  | nil =>
    refine ⟨rfl, ⟨.zero, congrArg some fresh.number, rfl⟩, fun s hs => ?_⟩
    cases hs
    exact fresh.number
  | snoc _ hc hstep ih => exact (moves_of_step? hc hstep).numbered ih

theorem Run.step? {start reader : Reader σ} {entries : List (Entry σ)}
    (h : Run start entries reader) :
    ∀ e ∈ entries, e.command.isOnSession = true ∧ e.before.step? e.command = some e.step := by
  induction h with
  | nil => simp
  | snoc _ hc hstep ih =>
    intro e he
    rcases List.mem_append.mp he with he | he
    · exact ih e he
    · obtain rfl := List.mem_singleton.mp he
      exact ⟨hc, hstep⟩

theorem isOnSession_of_request? {command : Command} {bytes : Bytes}
    (h : command.request? = some bytes) : command.isOnSession = true := by
  cases command <;> first | rfl | cases h

theorem Moves.exists_active {reader : Reader σ} {command : Command} {step : Step σ} {bytes : Bytes}
    (h : Moves reader command step) (hb : command.request? = some bytes) :
    ∃ s : Session .active σ, reader = .active s := by
  cases h with
  | activate _ => cases hb
  | release s => exact ⟨s, rfl⟩
  | resetSequence s => exact ⟨s, rfl⟩
  | deselect s => exact ⟨s, rfl⟩
  | @request s => exact ⟨s, rfl⟩

/-- An attempt leaves the session active, on to the next number if it delivered. -/
theorem Moves.active {s : Session .active σ} {command : Command} {step : Step σ} {bytes : Bytes}
    (h : Moves (.active s) command step) (hb : command.request? = some bytes) :
    ∃ t : Session .active σ, step.reader = .active t ∧ t.config = s.config ∧
      t.number = if step.answer.delivered then s.number.toggle else s.number := by
  cases h with
  | release _ => cases hb
  | resetSequence _ => cases hb
  | deselect _ => cases hb
  | request capacity _ hr _ hanswer =>
    refine ⟨_, hr, s.config_transact _ _, ?_⟩
    rw [hanswer, s.number_transact]

end

section
variable [Recording σ]

theorem Moves.sent {s : Session .active σ} {command : Command} {step : Step σ} {bytes : Bytes}
    (h : Moves (.active s) command step) (hb : command.request? = some bytes)
    (fits : bytes.length ≤ s.config.maxPayload) :
    ∃ ms : List UInt8, Recording.sent step.reader.link = Recording.sent s.link.link ++
      s.opening bytes :: ms.map (Attempt.acknowledgement s.config.frameWait) := by
  cases h with
  | release _ => cases hb
  | resetSequence _ => cases hb
  | deselect _ => cases hb
  | request capacity hb' hr _ _ =>
    obtain rfl := Option.some.inj (hb.symm.trans hb')
    obtain ⟨ms, hms⟩ := Attempt.sent_run s.config s.number s.link
      (Frame.sealed (Pcb.information s.number) bytes).toBytes
    refine ⟨ms, ?_⟩
    rw [hr, s.transact_eq fits]
    exact hms

/-- Two attempts in a row with one request, over a link that records. -/
theorem frames_of_attempts {s : Session .active σ} {first second : Command} {bytes : Bytes}
    {step₁ step₂ : Step σ} (hb₁ : first.request? = some bytes) (hb₂ : second.request? = some bytes)
    (fits : bytes.length ≤ s.config.maxPayload)
    (hs₁ : (Reader.active s).step? first = some step₁)
    (hs₂ : step₁.reader.step? second = some step₂) :
    ∃ t₁ later₁ t₂ later₂,
      Recording.sent step₁.reader.link = Recording.sent s.link.link ++ t₁ :: later₁ ∧
      Recording.sent step₂.reader.link = Recording.sent step₁.reader.link ++ t₂ :: later₂ ∧
      (t₁.frame = t₂.frame ↔ step₁.answer.delivered = false) := by
  have hm₁ := moves_of_step? (isOnSession_of_request? hb₁) hs₁
  have hm₂ := moves_of_step? (isOnSession_of_request? hb₂) hs₂
  obtain ⟨t, ht, hconfig, hnumber⟩ := hm₁.active hb₁
  obtain ⟨ms₁, hsent₁⟩ := hm₁.sent hb₁ fits
  rw [ht] at hm₂
  obtain ⟨ms₂, hsent₂⟩ := hm₂.sent hb₂ (hconfig ▸ fits)
  have hlink : step₁.reader.link = t.link.link := congrArg Reader.link ht
  refine ⟨s.opening bytes, _, t.opening bytes, _, hsent₁, hlink ▸ hsent₂, ?_⟩
  rw [Session.frame_opening_eq_iff, hnumber]
  cases step₁.answer.delivered with
  | true => cases s.number <;> decide
  | false => exact iff_of_true rfl rfl

end

/-- Over a scripted card an attempt delivers just when one of its exchanges brings an intact
information block. -/
theorem delivers_iff_heard {e : Entry ScriptedCard}
    (hstep : e.before.step? e.command = some e.step) (ha : e.command.request?.isSome = true) :
    ∃ s ts, e.before = .active s ∧ e.step.reader.link = s.link.link.after ts ∧
      (e.delivers = true ↔ ∃ i < ts.length, ∃ raw pcb payload,
        s.link.link.hearing s.config.frameCapacity i = .ok raw ∧
          Block.decode raw = .ok (.information pcb payload)) := by
  obtain ⟨before, command, step⟩ := e
  obtain ⟨bytes, hb⟩ := Option.isSome_iff_exists.mp ha
  obtain ⟨s, rfl⟩ := (moves_of_step? (isOnSession_of_request? hb) hstep).exists_active hb
  obtain ⟨step', ts, hstep', htells⟩ := tells_request s hb
  obtain rfl := Option.some.inj (hstep'.symm.trans hstep)
  refine ⟨s, ts, rfl, htells.link, ?_⟩
  rw [Entry.delivers, ha, Bool.true_and, List.any_eq_true]
  simp only [Event.bringsInformation_iff]
  constructor
  · rintro ⟨_, hmem, raw, pcb, payload, rfl, hd⟩
    obtain ⟨i, hi, hheard⟩ := htells.received_mem_iff.mp hmem
    exact ⟨i, hi, raw, pcb, payload, hheard, hd⟩
  · rintro ⟨i, hi, raw, pcb, payload, hheard, hd⟩
    exact ⟨_, htells.received_mem_iff.mpr ⟨i, hi, hheard⟩, raw, pcb, payload, rfl, hd⟩

/-- The number, its configuration and what it does to frames, along every run of a fresh session. -/
theorem number_along_runs :
    (∀ {σ : Type} [Link σ] {start : Session .idle σ} {entries : List (Entry σ)}
        {reader : Reader σ}, start.Fresh → Run (.idle start) entries reader →
      reader.config? = some start.config ∧
      (∃ n, reader.number? = some n ∧ n.toNat < 2 ∧ n.toNat = deliveries entries % 2) ∧
      (∀ s, reader = .idle s → s.number = .zero) ∧
      (∀ e, entries.getLast? = some e → e.command.restarts = true →
        reader.number? = some .zero) ∧
      ∀ e ∈ entries, e.command.request?.isSome = true →
        e.delivers = e.step.answer.delivered) ∧
    (∀ {start : Session .idle ScriptedCard} {entries : List (Entry ScriptedCard)}
        {reader : Reader ScriptedCard}, Run (.idle start) entries reader →
      ∀ e ∈ entries, e.command.request?.isSome = true →
        ∃ s ts, e.before = .active s ∧ e.step.reader.link = s.link.link.after ts ∧
          (e.delivers = true ↔ ∃ i < ts.length, ∃ raw pcb payload,
            s.link.link.hearing s.config.frameCapacity i = .ok raw ∧
              Block.decode raw = .ok (.information pcb payload))) ∧
    ∀ {σ : Type} [Recording σ] {start : Session .idle σ} {entries : List (Entry σ)}
        {s : Session .active σ} {first second : Command} {bytes : Bytes} {step₁ step₂ : Step σ},
      start.Fresh → Run (.idle start) entries (.active s) →
      first.request? = some bytes → second.request? = some bytes →
      bytes.length ≤ start.config.maxPayload →
      (Reader.active s).step? first = some step₁ → step₁.reader.step? second = some step₂ →
      ∃ t₁ later₁ t₂ later₂,
        Recording.sent step₁.reader.link = Recording.sent s.link.link ++ t₁ :: later₁ ∧
        Recording.sent step₂.reader.link = Recording.sent step₁.reader.link ++ t₂ :: later₂ ∧
        (t₁.frame = t₂.frame ↔ step₁.answer.delivered = false) := by
  refine ⟨?_, ?_, ?_⟩
  · intro σ _ start entries reader fresh hrun
    have hat := hrun.numbered fresh
    obtain ⟨n, hn, hpar⟩ := hat.number?
    refine ⟨hat.config?, ⟨n, hn, by omega, hpar⟩, hat.idle, fun e he hr => ?_, fun e he ha => ?_⟩
    · rw [deliveries_of_restart he hr] at hpar
      rw [hn]
      cases n with
      | zero => rfl
      | one => cases hpar
    · obtain ⟨hc, hstep⟩ := hrun.step? e he
      exact (moves_of_step? hc hstep).delivers_iff ha
  · intro start entries reader hrun e he ha
    exact delivers_iff_heard (hrun.step? e he).2 ha
  · intro σ _ start entries s first second bytes step₁ step₂ fresh hrun hb₁ hb₂ fits hs₁ hs₂
    have hconfig : s.config = start.config := Option.some.inj (hrun.numbered fresh).config?
    exact frames_of_attempts hb₁ hb₂ (hconfig ▸ fits) hs₁ hs₂

theorem number_along_runs_retry :
    let start : Session .idle ScriptedCard :=
      .start ⟨{ queue := [.fail .timeout, .whole [0x02, 0x90, 0x00, 0xF1, 0x09]] }⟩
        { frameCapacity := 16, maxResponse := 13 }
    let first : Step ScriptedCard := .ofTurn .response (start.activate.request [0xA2])
    let second : Step ScriptedCard :=
      .ofTurn .response ((start.activate.request [0xA2]).session.request [0xA2])
    let entries : List (Entry ScriptedCard) :=
      [⟨.idle start, .activate, .silent (.active start.activate)⟩,
        ⟨.active start.activate, .request [0xA2], first⟩,
        ⟨first.reader, .request [0xA2], second⟩]
    start.Fresh ∧ Run (.idle start) entries second.reader ∧
      (∃ n, second.reader.number? = some n ∧ n.toNat = 1) ∧
      ∃ t₁ later₁ t₂ later₂,
        Recording.sent first.reader.link = t₁ :: later₁ ∧
        Recording.sent second.reader.link = Recording.sent first.reader.link ++ t₂ :: later₂ ∧
        t₁.frame = t₂.frame := by
  intro start first second entries
  have fresh : start.Fresh := .inr ⟨⟨some start.link, start.config⟩, rfl⟩
  have hactivate : (Reader.idle start).step? .activate = some (.silent (.active start.activate)) :=
    rfl
  have hfirst : (Reader.active start.activate).step? (.request [0xA2]) = some first := rfl
  have hsecond : first.reader.step? (.request [0xA2]) = some second := rfl
  have hactive : Run (.idle start) (entries.take 1) (.active start.activate) :=
    .snoc .nil rfl hactivate
  have hrun : Run (.idle start) entries second.reader := .snoc (.snoc hactive rfl hfirst) rfl hsecond
  have hfits : [0xA2].length ≤ start.config.maxPayload := by decide
  obtain ⟨-, ⟨n, hn, -, hpar⟩, -⟩ := number_along_runs.1 fresh hrun
  obtain ⟨t₁, later₁, t₂, later₂, h₁, h₂, hframes⟩ :=
    number_along_runs.2.2 fresh hactive rfl rfl hfits hfirst hsecond
  refine ⟨fresh, hrun, ⟨n, hn, hpar.trans ?_⟩, t₁, later₁, t₂, later₂, h₁, h₂, hframes.mpr ?_⟩
  · decide
  · decide

end Reader

end Proximity
