import Proximity.Proofs.Attempt.Alike
import Proximity.Proofs.Reader.Run

/-! Requests in turn on scripts that come to the same. -/
namespace Proximity

structure Session.Alike (s t : Session .active ScriptedCard) : Prop where
  config : t.config = s.config
  number : t.number = s.number
  card : s.link.link.Alike s.config.frameCapacity t.link.link

structure Turn.Alike {ρ : Type} (turn turn' : Turn ScriptedCard ρ) : Prop where
  result : turn'.result = turn.result
  session : turn.session.Alike turn'.session
  log : List.Forall₂ Event.Alike turn.log turn'.log

theorem Turn.Alike.map {ρ τ : Type} {turn turn' : Turn ScriptedCard ρ} (h : turn.Alike turn')
    (f : ρ → τ) : (turn.map f).Alike (turn'.map f) where
  result := congrArg f h.result
  session := h.session
  log := h.log

theorem Session.Alike.transact {s t : Session .active ScriptedCard} (h : s.Alike t)
    (request : Bytes) (capacity : Nat) :
    (s.transact request capacity).Alike (t.transact request capacity) := by
  obtain ⟨handle, config, number⟩ := s
  obtain ⟨handle', config', number'⟩ := t
  obtain ⟨hconfig, hnumber, hcard⟩ := h
  dsimp only at hconfig hnumber hcard
  subst hconfig hnumber
  by_cases fits : request.length ≤ config'.maxPayload
  · rw [transact_eq _ fits, transact_eq _ fits]
    obtain ⟨houtcome, hlink, hlog⟩ := Attempt.run_alike config' number' hcard
      (Frame.sealed (Pcb.information number') request).toBytes
    refine ⟨?_, ⟨rfl, ?_, hlink⟩, hlog⟩
    · exact congrArg (·.bind (accept capacity)) houtcome
    · exact congrArg number'.following houtcome
  · rw [transact_of_oversized _ (Nat.not_le.mp fits), transact_of_oversized _ (Nat.not_le.mp fits)]
    exact ⟨rfl, ⟨rfl, rfl, hcard⟩, .nil⟩

namespace Reader

/-- Steps that nothing but the notes about received strings tells apart. -/
structure Step.Alike (capacity : Nat) (step step' : Step ScriptedCard) : Prop where
  answer : step'.answer = step.answer
  config? : step'.reader.config? = step.reader.config?
  number? : step'.reader.number? = step.reader.number?
  card : step.reader.link.Alike capacity step'.reader.link
  log : List.Forall₂ Event.Alike step.log step'.log

/-- One request on both, however it wants its answer. -/
theorem step?_alike {s t : Session .active ScriptedCard} (h : s.Alike t) {command : Command}
    (hc : command.request?.isSome = true) :
    ∃ (ρ : Type) (answer : ρ → Answer) (turn turn' : Turn ScriptedCard ρ), turn.Alike turn' ∧
      turn.session.config = s.config ∧
      (Reader.active s).step? command = some (.ofTurn answer turn) ∧
      (Reader.active t).step? command = some (.ofTurn answer turn') := by
  cases command with
  | request bytes =>
    refine ⟨_, .response, s.request bytes, t.request bytes, ?_, s.config_transact _ _, rfl, rfl⟩
    rw [Session.request, Session.request, h.config]
    exact h.transact bytes _
  | requestInto bytes buffer =>
    exact ⟨_, .filled, s.requestInto bytes buffer, t.requestInto bytes buffer,
      (h.transact bytes _).map _, s.config_transact _ _, rfl, rfl⟩
  | requestApdu bytes =>
    refine ⟨_, .apdu, s.requestApdu bytes, t.requestApdu bytes, ?_, s.config_transact _ _, rfl, rfl⟩
    rw [Session.requestApdu, Session.requestApdu, Session.request, Session.request, h.config]
    exact (h.transact bytes _).map _
  | _ => cases hc

theorem steps_alike {s t : Session .active ScriptedCard} (h : s.Alike t) {commands : List Command}
    (requests : ∀ command ∈ commands, command.request?.isSome = true) :
    ((Reader.active s).steps commands).length = commands.length ∧
      List.Forall₂ (Step.Alike s.config.frameCapacity) ((Reader.active s).steps commands)
        ((Reader.active t).steps commands) := by
  induction commands generalizing s t with
  | nil => exact ⟨rfl, .nil⟩
  | cons command later ih =>
    obtain ⟨ρ, answer, turn, turn', hturn, hconfig, hstep, hstep'⟩ :=
      step?_alike h (requests command List.mem_cons_self)
    obtain ⟨hlength, hlater⟩ := ih hturn.session fun c hc => requests c (List.mem_cons_of_mem _ hc)
    rw [hconfig] at hlater
    simp only [steps, hstep, hstep', List.length_cons]
    refine ⟨congrArg (· + 1) hlength, .cons ?_ hlater⟩
    exact {
      answer := congrArg answer hturn.result
      config? := congrArg some hturn.session.config
      number? := congrArg some hturn.session.number
      card := hconfig ▸ hturn.session.card
      log := hturn.log }

/-- On scripts that come to the same, requests differ in nothing but the strings received. -/
theorem steps_indifferent (s : Session .active ScriptedCard) {other : ScriptedCard}
    (alike : s.link.link.Alike s.config.frameCapacity other) {commands : List Command}
    (requests : ∀ command ∈ commands, command.request?.isSome = true) :
    let steps := (Reader.active s).steps commands
    let steps' := (Reader.active { s with link := ⟨other⟩ }).steps commands
    steps.length = commands.length ∧
      List.Forall₂ (Step.Alike s.config.frameCapacity) steps steps' := by
  have hstart : s.Alike { s with link := ⟨other⟩ } := ⟨rfl, rfl, alike⟩
  exact steps_alike hstart requests

theorem steps_indifferent_chained :
    let s : Session .active ScriptedCard :=
      ⟨⟨{ queue := [.whole (Frame.sealed 0xF2 [0x03]).toBytes,
          .whole (Frame.sealed 0x02 [0x90, 0x00]).toBytes, .fail .timeout] }⟩,
        { frameCapacity := 16, maxResponse := 13 }, .zero⟩
    let other : ScriptedCard :=
      { queue := [.whole (Frame.sealed 0xF2 [0x03, 0x11, 0x22]).toBytes,
          .whole (Frame.sealed 0x13 [0x90, 0x00]).toBytes, .fail .timeout] }
    let t : Session .active ScriptedCard := { s with link := ⟨other⟩ }
    let commands : List Command := [.request [0xA2], .requestApdu [0xB0]]
    s.link.link.Alike s.config.frameCapacity other ∧
      (∀ command ∈ commands, command.request?.isSome = true) ∧
      List.Forall₂ (Step.Alike 16) ((Reader.active s).steps commands)
        ((Reader.active t).steps commands) ∧
      (s.request [0xA2]).result = .ok [0x90, 0x00] ∧ (t.request [0xA2]).result = .ok [0x90, 0x00] := by
  intro s other t commands
  have alike : s.link.link.Alike s.config.frameCapacity other := by
    refine ⟨.cons ?_ (.cons ?_ (.cons (.fail .timeout) .nil)), .none, rfl⟩
    · exact Reply.alike_extension 0x03 (by decide) (by decide)
    · exact Reply.alike_information _ (by decide) (by decide) [0x90, 0x00]
  have requests : ∀ command ∈ commands, command.request?.isSome = true := by
    intro command hc
    rcases List.mem_cons.mp hc with rfl | hc
    · rfl
    · obtain rfl := List.mem_singleton.mp hc
      rfl
  exact ⟨alike, requests, (steps_indifferent s alike requests).2, by decide, by decide⟩

end Reader

end Proximity
