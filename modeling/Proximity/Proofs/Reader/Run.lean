import Proximity.Reader
import Proximity.Proofs.Session.Transact

/-! Runs of a reader on one session. What a command can do is said once, in `moves_of_step?`. -/
namespace Proximity

namespace Command

/-- Commands to a session that keep its link within it. -/
def isOnSession : Command → Bool
  | .activate | .release | .resetSequence | .deselect => true
  | .request _ | .requestInto _ _ | .requestApdu _ => true
  | _ => false

/-- The request that a command attempts, however it wants the answer. -/
def request? : Command → Option Bytes
  | .request bytes | .requestInto bytes _ | .requestApdu bytes => some bytes
  | _ => none

def restarts : Command → Bool
  | .activate | .release | .resetSequence | .deselect => true
  | _ => false

end Command

/-- A payload too short for a status word arrived as well. -/
def Answer.delivered : Answer → Bool
  | .response result => Proximity.delivered result
  | .filled f => Proximity.delivered f.length
  | .apdu (.ok _) => true
  | .apdu (.error (.attempt e)) => e.followsDelivery
  | .apdu (.error (.invalidLength _)) => true
  | _ => false

def failed? {α : Type} : Except Failure α → Option Failure
  | .ok _ => none
  | .error e => some e

/-- The failure that a command ended with. A payload too short for a status word is none. -/
def Answer.failure? : Answer → Option Failure
  | .deselected result => failed? result
  | .response result => failed? result
  | .filled f => failed? f.length
  | .apdu (.error (.attempt e)) => some e
  | _ => none

namespace Reader

variable {σ : Type}

structure Entry (σ : Type) where
  before : Reader σ
  command : Command
  step : Step σ

variable [Link σ]

/-- The entries lead from `start` to the last reader, one by one. -/
inductive Run (start : Reader σ) : List (Entry σ) → Reader σ → Prop
  | nil : Run start [] start
  | snoc {entries : List (Entry σ)} {reader : Reader σ} {command : Command} {step : Step σ} :
    Run start entries reader → command.isOnSession = true → reader.step? command = some step →
    Run start (entries ++ [⟨reader, command, step⟩]) step.reader

/-- Commands carried out in turn, up to the first that is not possible. -/
def steps : Reader σ → List Command → List (Step σ)
  | _, [] => []
  | reader, command :: later =>
    match reader.step? command with
    | none => []
    | some step => step :: step.reader.steps later

/-- What a command can do. Requests differ only in how much they take and how they present it. -/
inductive Moves : Reader σ → Command → Step σ → Prop
  | activate (s : Session .idle σ) : Moves (.idle s) .activate (.silent (.active s.activate))
  | release (s : Session .active σ) : Moves (.active s) .release (.silent (.idle s.release))
  | resetSequence (s : Session .active σ) :
    Moves (.active s) .resetSequence (.silent (.active s.resetSequence))
  | deselect (s : Session .active σ) :
    Moves (.active s) .deselect (.ofTurn .deselected s.deselect)
  | request {s : Session .active σ} {command : Command} {bytes : Bytes} {step : Step σ}
      (capacity : Nat) :
    command.request? = some bytes →
    step.reader = .active (s.transact bytes capacity).session →
    step.log = (s.transact bytes capacity).log →
    step.answer.delivered = delivered (s.transact bytes capacity).result →
    Moves (.active s) command step

/-- However a request wants its answer, the answer tells of the outcome. -/
theorem step?_request (s : Session .active σ) {command : Command} {bytes : Bytes}
    (hb : command.request? = some bytes) :
    ∃ step capacity, (Reader.active s).step? command = some step ∧
      step.reader = .active (s.transact bytes capacity).session ∧
      step.log = (s.transact bytes capacity).log ∧
      step.answer.delivered = delivered (s.transact bytes capacity).result ∧
      step.answer.failure? = failed? (s.transact bytes capacity).result := by
  cases command with
  | request _ =>
    cases hb
    exact ⟨_, s.config.maxResponse, rfl, rfl, rfl, rfl, rfl⟩
  | requestInto _ buffer =>
    cases hb
    refine ⟨_, buffer.length, rfl, rfl, rfl, ?_⟩
    simp only [Step.ofTurn, Session.requestInto, Turn.map, Answer.delivered, Answer.failure?]
    cases (s.transact bytes buffer.length).result <;> exact ⟨rfl, rfl⟩
  | requestApdu _ =>
    cases hb
    refine ⟨_, s.config.maxResponse, rfl, rfl, rfl, ?_⟩
    simp only [Step.ofTurn, Session.requestApdu, Session.request, Turn.map]
    cases (s.transact bytes s.config.maxResponse).result with
    | error e => exact ⟨rfl, rfl⟩
    | ok payload =>
      cases hp : ResponseApdu.parse payload <;>
        simp [hp, Except.mapError, Answer.delivered, Proximity.delivered, Answer.failure?, failed?]
  | _ => cases hb

theorem moves_of_step? {reader : Reader σ} {command : Command} {step : Step σ}
    (hc : command.isOnSession = true) (h : reader.step? command = some step) :
    Moves reader command step := by
  cases reader with
  | detached handle => cases command <;> cases hc <;> cases h
  | idle s =>
    cases command with
    | activate =>
      cases h
      exact .activate s
    | detach => cases hc
    | _ => cases h
  | active s =>
    cases hb : command.request? with
    | some bytes =>
      obtain ⟨step', capacity, hstep, hreader, hlog, hdelivered, -⟩ := step?_request s hb
      obtain rfl := Option.some.inj (hstep.symm.trans h)
      exact .request capacity hb hreader hlog hdelivered
    | none =>
      cases command with
      | release =>
        cases h
        exact .release s
      | resetSequence =>
        cases h
        exact .resetSequence s
      | deselect =>
        cases h
        exact .deselect s
      | request _ | requestInto _ _ | requestApdu _ => cases hb
      | _ => cases h

end Reader

end Proximity
