import Proximity.Apdu
import Proximity.Attempt
import Proximity.Error

/-! Sessions with one card. Only an active one can exchange blocks. -/
namespace Proximity

inductive Phase where
  | idle
  | active
deriving DecidableEq

structure Session (phase : Phase) (σ : Type) where
  link : Handle σ
  config : Config
  /-- The number of the next information block. -/
  number : BlockNumber

structure Turn (σ ρ : Type) where
  result : ρ
  session : Session .active σ
  log : List Event

def Turn.map {σ ρ τ : Type} (f : ρ → τ) (turn : Turn σ ρ) : Turn σ τ :=
  ⟨f turn.result, turn.session, turn.log⟩

/-- A response written to the caller's buffer: its length, and the buffer. -/
structure Filled where
  length : Except Failure Nat
  buffer : Bytes

namespace Session

variable {σ : Type}

/-- An idle session. The configuration is taken as it is; `Setup.build` checks it. -/
def start (link : Handle σ) (config : Config) : Session .idle σ :=
  ⟨link, config, .zero⟩

def activate (s : Session .idle σ) : Session .active σ :=
  ⟨s.link, s.config, .zero⟩

def release (s : Session .active σ) : Session .idle σ :=
  ⟨s.link, s.config, .zero⟩

def resetSequence (s : Session .active σ) : Session .active σ :=
  { s with number := .zero }

variable [Link σ]

/-- Sends `request` and takes the card's payload if it has at most `capacity` bytes. The number
moves on once the card has answered with an information block, even if that is too long to take. -/
def transact (s : Session .active σ) (request : Bytes) (capacity : Nat) :
    Turn σ (Except Failure Bytes) :=
  match Frame.information s.number request s.config.maxPayload with
  | .error e => ⟨.error (.oversized e), s, []⟩
  | .ok frame =>
    let report := Attempt.run s.config s.number s.link frame.toBytes
    match report.outcome with
    | .error e => ⟨.error e, { s with link := report.link }, report.log⟩
    | .ok payload =>
      { result :=
          if capacity < payload.length then .error (.responseTooLarge payload.length capacity)
          else .ok payload
        session := { s with link := report.link, number := s.number.toggle }
        log := report.log }

def request (s : Session .active σ) (request : Bytes) : Turn σ (Except Failure Bytes) :=
  s.transact request s.config.maxResponse

/-- Writes the response over the beginning of `buffer`, which is left alone on any error. -/
def requestInto (s : Session .active σ) (request buffer : Bytes) : Turn σ Filled :=
  (s.transact request buffer.length).map fun
    | .ok payload => ⟨.ok payload.length, Bytes.overwrite buffer payload⟩
    | .error e => ⟨.error e, buffer⟩

def requestApdu (s : Session .active σ) (request : Bytes) :
    Turn σ (Except Error ResponseApdu) :=
  (s.request request).map fun
    | .ok payload => (ResponseApdu.parse payload).mapError .invalidLength
    | .error e => .error (.attempt e)

/-- Whether the card agreed to be deselected. -/
def confirmDeselect (raw : Bytes) : Except Failure Unit :=
  match Block.decode raw with
  | .error e => .error (.ofFrameError e)
  | .ok (.supervisory pcb _) =>
    if pcb.isDeselect then .ok () else .error (.unsupportedBlock pcb)
  | .ok block => .error (.unsupportedBlock block.pcb)

/-- Deselects the card. The number starts over whether or not the card answered. -/
def deselect (s : Session .active σ) : Turn σ (Except Failure Unit) :=
  let frame := Frame.deselect.toBytes
  let heard := Attempt.listen s.link frame (Bytes.zeros s.config.frameCapacity) s.config.frameWait
  { result := heard.outcome.bind confirmDeselect
    session := { s with link := heard.link, number := .zero }
    log := .deselectSent frame :: heard.log }

end Session

end Proximity
