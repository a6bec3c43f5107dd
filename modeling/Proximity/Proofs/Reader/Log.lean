import Proximity.Proofs.Log.Lines
import Proximity.Proofs.Reader.Run

/-!
The log as a transcript: its lines alone tell what a command sent, what came back and how it ended.
-/
namespace Proximity

/-- What is noted last of a command that failed. That a card did not confirm its deselection is not
noted. -/
def Command.parting? (command : Command) : Failure → Option Event
  | .link e => some (.linkFailed e)
  | .extensionsExceeded granted => some (.extensionsExhausted granted)
  | .unsupportedBlock pcb => if command.request?.isSome then some (.unsupported pcb) else none
  | _ => none

theorem Command.parting?_eq_some_iff {command : Command} {failure? : Option Failure}
    {event : Event} :
    failure?.bind command.parting? = some event ↔
      (∃ e, failure? = some (.link e) ∧ .linkFailed e = event) ∨
      (∃ granted, failure? = some (.extensionsExceeded granted) ∧
        .extensionsExhausted granted = event) ∨
      command.request?.isSome = true ∧
        ∃ pcb, failure? = some (.unsupportedBlock pcb) ∧ .unsupported pcb = event := by
  cases failure? with
  | none => simp
  | some e => cases e <;> simp [parting?]

theorem Command.silent_of_parting? {command : Command} {failure? : Option Failure} :
    ∀ e ∈ (failure?.bind command.parting?).toList,
      e.announced? = none ∧ e.received? = none ∧ e.heading? = none := by
  intro e he
  rcases parting?_eq_some_iff.mp (Option.mem_toList.mp he) with
    ⟨_, _, rfl⟩ | ⟨_, _, rfl⟩ | ⟨_, _, _, rfl⟩ <;> exact ⟨rfl, rfl, rfl⟩

namespace Session

/-- What is noted of the `i`-th transmission of a command. -/
def announcement (s : Session .active ScriptedCard) (command : Command) :
    Transmission × Nat → Event
  | (t, 0) =>
    if command.request?.isSome then .informationSent s.number t.frame else .deselectSent t.frame
  | (t, i + 1) => .extensionSent (i + 1) (t.frame.getD 1 0) t.wait t.frame

/-- What the line of the `i`-th transmission of a command says of it. -/
def heading (s : Session .active ScriptedCard) (command : Command) :
    Nat → Transmission → Log.Heading
  | 0, _ => if command.request?.isSome then .information s.number.toNat else .deselect
  | i + 1, t => .extension (i + 1) t.wait.toNat

def heard (s : Session .active ScriptedCard) (i : Nat) : Except Failure Bytes :=
  s.link.link.hearing s.config.frameCapacity i

/-- Each transmission as a log tells it, and right behind it what it brought. -/
def dialogue (s : Session .active ScriptedCard) (command : Command) (ts : List Transmission) :
    List Event :=
  ts.zipIdx.flatMap fun t => s.announcement command t :: Attempt.receipt (s.heard t.2)

theorem dialogue_attempt (s : Session .active ScriptedCard) {command : Command}
    (hc : command.request?.isSome = true) (request : Bytes) (ms : List UInt8) :
    s.dialogue command (s.opening request :: ms.map (Attempt.acknowledgement s.config.frameWait)) =
      ((Attempt.announcements s.config.frameWait s.number
        (Frame.sealed (Pcb.information s.number) request).toBytes ms).mapIdx fun i e =>
          e :: Attempt.receipt (s.heard i)).flatten := by
  rw [dialogue, List.flatMap_def]
  refine congrArg List.flatten (List.ext_getElem? fun i => ?_)
  cases i with
  | zero => simp [Attempt.announcements, announcement, hc, opening, Transmission.whole]
  | succ i =>
    simp only [Attempt.announcements, List.getElem?_map, List.getElem?_zipIdx, List.getElem?_mapIdx,
      List.getElem?_cons_succ, Option.map_map, Nat.zero_add]
    rfl

theorem announced?_announcement (s : Session .active ScriptedCard) (command : Command)
    (t : Transmission × Nat) : (s.announcement command t).announced? = some t.1.frame := by
  obtain ⟨t, i⟩ := t
  cases i with
  | zero =>
    rw [announcement]
    split <;> rfl
  | succ i => rfl

/-- What is read off announcements only is read once for each transmission. -/
theorem filterMap_dialogue (s : Session .active ScriptedCard) (command : Command)
    (ts : List Transmission) {α : Type} {read? : Event → Option α} {f : Transmission × Nat → α}
    (hannouncement : ∀ t, read? (s.announcement command t) = some (f t))
    (hreceived : ∀ raw, read? (.received raw) = none) :
    (s.dialogue command ts).filterMap read? = ts.zipIdx.map f := by
  have hone : ∀ t, (s.announcement command t :: Attempt.receipt (s.heard t.2)).filterMap read? =
      [f t] := by
    intro t
    rw [List.filterMap_cons, hannouncement]
    cases s.heard t.2 with
    | error e => rfl
    | ok raw => simp [Attempt.receipt, hreceived]
  simp only [dialogue, List.filterMap_flatMap, hone]
  exact List.map_eq_flatMap.symm

theorem filterMap_announced?_dialogue (s : Session .active ScriptedCard) (command : Command)
    (ts : List Transmission) :
    (s.dialogue command ts).filterMap Event.announced? = ts.map Transmission.frame := by
  rw [s.filterMap_dialogue command ts (s.announced?_announcement command) fun _ => rfl]
  conv_rhs => rw [← List.zipIdx_map_fst 0 ts, List.map_map]
  rfl

theorem filterMap_heading?_dialogue (s : Session .active ScriptedCard) (command : Command)
    (ts : List Transmission) :
    (s.dialogue command ts).filterMap Event.heading? = ts.mapIdx (s.heading command) := by
  have hheading : ∀ t : Transmission × Nat,
      (s.announcement command t).heading? = some (s.heading command t.2 t.1) := by
    rintro ⟨t, i⟩
    cases i with
    | zero =>
      rw [announcement, heading]
      split <;> rfl
    | succ i => rfl
  rw [s.filterMap_dialogue command ts hheading fun _ => rfl, List.mapIdx_eq_zipIdx_map]

theorem filterMap_received?_dialogue (s : Session .active ScriptedCard) (command : Command)
    (ts : List Transmission) :
    (s.dialogue command ts).filterMap Event.received? =
      (List.range ts.length).filterMap fun i => (s.heard i).toOption := by
  have hone : ∀ t, (s.announcement command t :: Attempt.receipt (s.heard t.2)).filterMap
      Event.received? = (s.heard t.2).toOption.toList := by
    intro t
    rw [List.filterMap_cons,
      (Event.silent_of_announced? (s.announced?_announcement command t)).1]
    cases s.heard t.2 <;> rfl
  simp only [dialogue, List.filterMap_flatMap, hone]
  rw [List.range_eq_range', ← List.zipIdx_map_snd, List.filterMap_map,
    List.filterMap_eq_flatMap_toList]
  rfl

/-- Behind each frame of a dialogue, in the very next line, stands what it brought. -/
theorem exchanges_dialogue (s : Session .active ScriptedCard) (command : Command)
    (ts : List Transmission) {last : List Event}
    (hlast : ∀ e ∈ last, e.announced? = none ∧ e.received? = none) :
    Log.exchanges ((s.dialogue command ts ++ last).map Event.line) =
      ts.zipIdx.map fun t => (Hex.spaced t.1.frame, (s.heard t.2).toOption.map Hex.spaced) := by
  rw [dialogue]
  generalize ts.zipIdx = ts
  induction ts with
  | nil => exact Log.exchanges_eq_nil fun e he => (hlast e he).1
  | cons t ts ih =>
    let later := ts.flatMap (fun t => s.announcement command t :: Attempt.receipt (s.heard t.2)) ++
      last
    have hannounced := s.announced?_announcement command t
    -- What follows the exchange begins with another announcement or the end.
    have hlater : later.head?.bind Event.received? = none := by
      cases ts with
      | nil =>
        cases last with
        | nil => rfl
        | cons e _ => exact (hlast e List.mem_cons_self).2
      | cons next _ =>
        exact (Event.silent_of_announced? (s.announced?_announcement command next)).1
    rw [List.flatMap_cons, List.append_assoc, List.cons_append,
      Log.exchanges_of_announced hannounced]
    cases hheard : s.heard t.2 with
    | error e =>
      change (_, (later.head?.bind Event.received?).map _) :: Log.exchanges (later.map _) = _
      rw [hlater, ih, List.map_cons, hheard]
      rfl
    | ok raw =>
      change (_, some (Hex.spaced raw)) :: Log.exchanges ((.received raw :: later).map _) = _
      rw [Log.exchanges_of_silent rfl, ih, List.map_cons, hheard]
      rfl

theorem plain_of_mem_dialogue {s : Session .active ScriptedCard} {command : Command}
    {ts : List Transmission} {e : Event} (he : e ∈ s.dialogue command ts) :
    e.isExhausted = false ∧ e.isLinkFailed = false ∧ e.isUnsupported = false := by
  obtain ⟨t, -, he⟩ := List.mem_flatMap.mp he
  rcases List.mem_cons.mp he with rfl | he
  · exact (Event.silent_of_announced? (s.announced?_announcement command t)).2
  · cases hi : s.heard t.2 with
    | error _ => simp [hi, Attempt.receipt] at he
    | ok raw =>
      simp only [hi, Attempt.receipt, List.mem_singleton] at he
      rw [he]
      exact ⟨rfl, rfl, rfl⟩

end Session

namespace Reader

/-- A command sent `ts`, and its log tells just this and how the command ended. -/
structure Tells (s : Session .active ScriptedCard) (command : Command) (step : Step ScriptedCard)
    (ts : List Transmission) : Prop where
  link : step.reader.link = s.link.link.after ts
  log : step.log = s.dialogue command ts ++ (step.answer.failure?.bind command.parting?).toList

/-- Only the link can fail a deselection with a note. -/
theorem parting_deselect {outcome : Except Failure Bytes}
    (h : ∀ e, outcome = .error e → (∃ e', e = .link e') ∨ ∃ bits, e = .frameTooShort bits) :
    ((failed? (outcome.bind Session.confirmDeselect)).bind Command.deselect.parting?).toList =
      Attempt.breakdown outcome := by
  cases outcome with
  | error e => rcases h e rfl with ⟨e', rfl⟩ | ⟨bits, rfl⟩ <;> rfl
  | ok raw =>
    simp only [Except.bind, Session.confirmDeselect]
    cases Block.decode raw with
    | error e => cases e <;> rfl
    | ok block =>
      cases block with
      | supervisory pcb payload =>
        by_cases h : pcb.isDeselect = true <;>
          simp [h, failed?, Command.parting?, Command.request?, Attempt.breakdown]
      | _ => rfl

theorem tells_deselect (s : Session .active ScriptedCard) :
    Tells s .deselect (.ofTurn .deselected s.deselect)
      [.whole Frame.deselect.toBytes s.config.frameWait] := by
  let heard := Attempt.listen s.link Frame.deselect.toBytes (Bytes.zeros s.config.frameCapacity)
    s.config.frameWait
  have hat : heard.IsAt s.link.link s.config.frameCapacity 0 := Attempt.listen_isAt rfl rfl _ _
  have hlistened : heard.Listened := ⟨_, _, _, _, rfl⟩
  have hparting : ((failed? (heard.outcome.bind Session.confirmDeselect)).bind
      Command.deselect.parting?).toList = Attempt.breakdown heard.outcome := by
    refine parting_deselect fun e he => ?_
    rw [hat.outcome] at he
    exact (ScriptedCard.hearing_eq_error he).imp_right fun ⟨bits, h, _⟩ => ⟨bits, h⟩
  constructor
  · exact ScriptedCard.eq_after hat.queue hat.fallback (Attempt.sent_listen s.link _ _ _)
  · change Event.deselectSent Frame.deselect.toBytes :: heard.log =
      (Event.deselectSent Frame.deselect.toBytes :: Attempt.receipt _) ++ [] ++
        ((failed? (heard.outcome.bind Session.confirmDeselect)).bind
          Command.deselect.parting?).toList
    rw [hparting, Attempt.log_of_listened hlistened, Attempt.notice_eq, hat.outcome,
      List.append_nil]
    rfl

theorem parting_request {command : Command} (hc : command.request?.isSome = true)
    (outcome : Except Failure Bytes) (capacity : Nat) :
    ((failed? (outcome.bind (accept capacity))).bind command.parting?).toList =
      Attempt.breakdown outcome ++ Attempt.closing outcome := by
  cases outcome with
  | error e =>
    cases e <;>
      simp [Except.bind, failed?, Command.parting?, hc, Attempt.breakdown, Attempt.closing]
  | ok payload =>
    simp only [Except.bind, accept]
    split <;> rfl

theorem tells_request (s : Session .active ScriptedCard) {command : Command} {bytes : Bytes}
    (hb : command.request? = some bytes) :
    ∃ step ts, (Reader.active s).step? command = some step ∧ Tells s command step ts := by
  obtain ⟨step, capacity, hstep, hreader, hlog, -, hfailure⟩ := step?_request s hb
  have hc : command.request?.isSome = true := by rw [hb, Option.isSome_some]
  by_cases fits : bytes.length ≤ s.config.maxPayload
  · obtain ⟨ms, hlink, hrun⟩ := Attempt.log_run_scripted s.config s.number s.link
      (Frame.sealed (Pcb.information s.number) bytes).toBytes
    refine ⟨step, s.opening bytes :: ms.map (Attempt.acknowledgement s.config.frameWait), hstep,
      ?_, ?_⟩
    · rw [hreader, s.transact_eq fits]
      exact hlink
    · rw [hlog, hfailure, s.transact_eq fits, parting_request hc, s.dialogue_attempt hc]
      exact hrun
  -- Nothing is sent, and nothing noted, of a request that does not fit.
  · rw [s.transact_of_oversized (Nat.not_le.mp fits)] at hreader hlog hfailure
    refine ⟨step, [], hstep, ?_, ?_⟩
    · rw [hreader]
      simp [ScriptedCard.after, Reader.link]
    · rw [hlog, hfailure]
      rfl

/-- The lines of a log give back the frames `ts` that were sent, the number, round and wait of each,
and what it brought. They tell of the failure that ended the command, and do so in the last line. -/
structure ReadsBack (s : Session .active ScriptedCard) (command : Command) (answer : Answer)
    (ts : List Transmission) (lines : List String) : Prop where
  frames : (lines.filterMap Log.sent?).map Hex.parse = ts.map fun t => .ok t.frame
  headings : lines.filterMap Log.heading? = ts.mapIdx (s.heading command)
  exchanges : (Log.exchanges lines).map (Prod.map Hex.parse (Option.map Hex.parse)) =
    ts.mapIdx fun i t => (.ok t.frame, (s.heard i).toOption.map .ok)
  strings : (lines.filterMap Log.received?).map Hex.parse =
    ((List.range ts.length).filterMap fun i => (s.heard i).toOption).map .ok
  exhausted : (∃ line ∈ lines, Log.tellsExhausted line = true) ↔
    ∃ granted, answer.failure? = some (.extensionsExceeded granted)
  linkError : (∃ line ∈ lines, Log.tellsLinkError line = true) ↔
    ∃ e, answer.failure? = some (.link e)
  unsupported : (∃ line ∈ lines, Log.tellsUnsupported line = true) ↔
    command.request?.isSome = true ∧ ∃ pcb, answer.failure? = some (.unsupportedBlock pcb)
  last : ∀ line ∈ lines.dropLast, Log.tellsExhausted line = false ∧
    Log.tellsLinkError line = false ∧ Log.tellsUnsupported line = false

section
variable {s : Session .active ScriptedCard} {command : Command} {step : Step ScriptedCard}
  {ts : List Transmission}

/-- What no dialogue says is only said of a failure. -/
theorem Tells.exists_event_iff (h : Tells s command step ts) {test : Event → Bool}
    (hplain : ∀ e ∈ s.dialogue command ts, test e = false) :
    (∃ e ∈ step.log, test e = true) ↔
      ∃ e, step.answer.failure?.bind command.parting? = some e ∧ test e = true := by
  rw [h.log]
  constructor
  · rintro ⟨e, he, htest⟩
    rcases List.mem_append.mp he with he | he
    · rw [hplain e he] at htest
      cases htest
    · exact ⟨e, Option.mem_toList.mp he, htest⟩
  · rintro ⟨e, he, htest⟩
    exact ⟨e, List.mem_append_right _ (Option.mem_toList.mpr he), htest⟩

theorem Tells.mem_dialogue (h : Tells s command step ts) {e : Event} (he : e ∈ step.log.dropLast) :
    e ∈ s.dialogue command ts := by
  rw [h.log] at he
  cases hlast : step.answer.failure?.bind command.parting? with
  | none =>
    rw [hlast, Option.toList_none, List.append_nil] at he
    exact List.mem_of_mem_dropLast he
  | some last =>
    rw [hlast, Option.toList_some, List.dropLast_concat] at he
    exact he

/-- What is not read off the end is read off the dialogue. -/
theorem Tells.filterMap_log {α : Type} {read? : Event → Option α} (h : Tells s command step ts)
    (hsilent : ∀ e ∈ (step.answer.failure?.bind command.parting?).toList, read? e = none) :
    step.log.filterMap read? = (s.dialogue command ts).filterMap read? := by
  rw [h.log, List.filterMap_append, List.filterMap_eq_nil_iff.mpr hsilent, List.append_nil]

theorem Tells.filterMap_received? (h : Tells s command step ts) :
    step.log.filterMap Event.received? =
      (List.range ts.length).filterMap fun i => (s.heard i).toOption := by
  rw [h.filterMap_log fun e he => (Command.silent_of_parting? e he).2.1,
    s.filterMap_received?_dialogue]

/-- What a log notes as received was heard in one of the exchanges. -/
theorem Tells.received_mem_iff (h : Tells s command step ts) {raw : Bytes} :
    .received raw ∈ step.log ↔ ∃ i < ts.length, s.heard i = .ok raw := by
  have hnoted : .received raw ∈ step.log ↔ raw ∈ step.log.filterMap Event.received? := by
    rw [List.mem_filterMap]
    constructor
    · intro hmem
      exact ⟨_, hmem, rfl⟩
    · rintro ⟨e, hmem, he⟩
      cases e with
      | received _ =>
        cases he
        exact hmem
      | _ => cases he
  have hok : ∀ i, (s.heard i).toOption = some raw ↔ s.heard i = .ok raw := by
    intro i
    cases s.heard i <;> simp [Except.toOption]
  rw [hnoted, h.filterMap_received?]
  simp only [List.mem_filterMap, List.mem_range, hok]

theorem Tells.length (h : Tells s command step ts) :
    step.reader.link.sent.length = s.link.link.sent.length + ts.length := by
  rw [h.link, ScriptedCard.after, List.length_append]

theorem Tells.readsBack (h : Tells s command step ts) :
    ReadsBack s command step.answer ts (step.log.map Event.line) := by
  constructor
  case frames =>
    rw [Log.parse_lines Event.sent?_line,
      h.filterMap_log fun e he => (Command.silent_of_parting? e he).1,
      s.filterMap_announced?_dialogue, List.map_map]
    rfl
  case headings =>
    rw [Log.filterMap_lines Event.heading?_line,
      h.filterMap_log fun e he => (Command.silent_of_parting? e he).2.2,
      s.filterMap_heading?_dialogue]
  case exchanges =>
    have hlast : ∀ e ∈ (step.answer.failure?.bind command.parting?).toList,
        e.announced? = none ∧ e.received? = none := by
      intro e he
      obtain ⟨hannounced, hreceived, -⟩ := Command.silent_of_parting? e he
      exact ⟨hannounced, hreceived⟩
    rw [h.log, s.exchanges_dialogue command ts hlast, List.map_map, List.mapIdx_eq_zipIdx_map]
    refine List.map_congr_left fun t _ => ?_
    simp [Hex.parse_spaced, Function.comp_def]
  case strings =>
    rw [Log.parse_lines Event.received?_line, h.filterMap_received?]
  case exhausted =>
    rw [Log.exists_line_iff Event.tellsExhausted_line,
      h.exists_event_iff fun e he => (Session.plain_of_mem_dialogue he).1]
    simp [Command.parting?_eq_some_iff, or_and_right, exists_or, Event.isExhausted]
  case linkError =>
    rw [Log.exists_line_iff Event.tellsLinkError_line,
      h.exists_event_iff fun e he => (Session.plain_of_mem_dialogue he).2.1]
    simp [Command.parting?_eq_some_iff, or_and_right, exists_or, Event.isLinkFailed]
  case unsupported =>
    rw [Log.exists_line_iff Event.tellsUnsupported_line,
      h.exists_event_iff fun e he => (Session.plain_of_mem_dialogue he).2.2]
    simp [Command.parting?_eq_some_iff, or_and_right, exists_or, and_assoc, Event.isUnsupported]
  case last =>
    intro line hline
    rw [← List.map_dropLast] at hline
    obtain ⟨e, he, rfl⟩ := List.mem_map.mp hline
    rw [Event.tellsExhausted_line, Event.tellsLinkError_line, Event.tellsUnsupported_line]
    exact Session.plain_of_mem_dialogue (h.mem_dialogue he)

end

theorem exists_tells (s : Session .active ScriptedCard) {command : Command}
    (talks : command.request?.isSome = true ∨ command = .deselect) :
    ∃ step ts, (Reader.active s).step? command = some step ∧ Tells s command step ts := by
  rcases talks with hc | rfl
  · obtain ⟨bytes, hb⟩ := Option.isSome_iff_exists.mp hc
    exact tells_request s hb
  · exact ⟨_, _, rfl, tells_deselect s⟩

/-- The log notes each frame in turn with what it brought, and its lines read back. -/
theorem log_tells (s : Session .active ScriptedCard) {command : Command}
    (talks : command.request?.isSome = true ∨ command = .deselect) :
    ∃ step ts, (Reader.active s).step? command = some step ∧ Tells s command step ts ∧
      ReadsBack s command step.answer ts (step.log.map Event.line) := by
  obtain ⟨step, ts, hstep, htells⟩ := exists_tells s talks
  exact ⟨step, ts, hstep, htells, htells.readsBack⟩

theorem log_tells_extended_once :
    let s : Session .active ScriptedCard :=
      ⟨⟨{ queue := [.whole [0xF2, 0x03, 0x83, 0x63]] }⟩,
        { frameCapacity := 16, maxResponse := 13 }, .one⟩
    let lines := ["DEBUG I(1) -> 03 A2 D0 B2", "TRACE <- F2 03 83 63",
      "DEBUG WTX #1 wtxm=0x03 wait=1500ms -> F2 03 83 63", "DEBUG link error: no response from tag"]
    (Command.request [0xA2]).request?.isSome = true ∧
      ∃ step ts, (Reader.active s).step? (.request [0xA2]) = some step ∧
        step.log.map Event.line = lines ∧
        step.answer.failure? = some (.link .timeout) ∧
        ts.map Transmission.frame = [[0x03, 0xA2, 0xD0, 0xB2], [0xF2, 0x03, 0x83, 0x63]] ∧
        ReadsBack s (.request [0xA2]) step.answer ts lines := by
  intro s lines
  have talks : (Command.request [0xA2]).request?.isSome = true := rfl
  obtain ⟨step, ts, hstep, htells, hback⟩ := log_tells s (.inl talks)
  have hlines : step.log.map Event.line = lines := by
    cases hstep
    decide +kernel
  have hsent : step.reader.link.sent = ts := congrArg ScriptedCard.sent htells.link
  rw [hlines] at hback
  refine ⟨talks, step, ts, hstep, hlines, ?_, ?_, hback⟩
  · cases hstep
    decide +kernel
  · rw [← hsent]
    cases hstep
    decide +kernel

end Reader

end Proximity
