import Proximity.Config
import Proximity.Event

/-!
One attempt to get an answer from the card, which may ask for more time as often as the budget
allows.
-/
namespace Proximity.Attempt

/-- What came back after one frame was sent: the whole bytes received, or why there are none. -/
structure Heard (σ : Type) where
  outcome : Except Failure Bytes
  link : σ
  buffer : Bytes
  log : List Event

inductive Reaction where
  | deliver (payload : Bytes)
  | extend (multiplier : UInt8)
  | unsupported (pcb : Pcb)
  | corrupt (e : FrameError)
deriving DecidableEq

structure Report (σ : Type) where
  outcome : Except Failure Bytes
  link : σ
  log : List Event

def Report.after {σ : Type} (earlier : List Event) (report : Report σ) : Report σ :=
  { report with log := earlier ++ report.log }

/-- Any information block delivers, whatever its number. A request for extension needs a multiplier;
what follows the multiplier does not matter. -/
def react (raw : Bytes) : Reaction :=
  match Block.decode raw with
  | .error e => .corrupt e
  | .ok (.information _ payload) => .deliver payload
  | .ok (.supervisory pcb (multiplier :: _)) =>
    if pcb.isExtension then .extend multiplier else .unsupported pcb
  | .ok block => .unsupported block.pcb

variable {σ : Type} [Link σ]

/-- Sends `frame` and reads what the link reports to have received. Fewer bits than the shortest
frame has are an error; a report beyond the buffer reads all of it. -/
def listen (link : σ) (frame buffer : Bytes) (wait : UInt64) : Heard σ :=
  let done := Link.exchangeBytes link frame buffer wait
  match done.outcome with
  | .error e => ⟨.error (.link e), done.link, done.buffer, [.linkFailed e]⟩
  | .ok bits =>
    if bits < 8 * Frame.minLength then
      ⟨.error (.frameTooShort bits), done.link, done.buffer, []⟩
    else
      let raw := done.buffer.take (bits / 8)
      ⟨.ok raw, done.link, done.buffer, [.received raw]⟩

/-- Goes on from what was heard, with `left` extensions to grant and `granted` given already. The
wait for each is counted from the ordinary wait, never from a stretched one. -/
def converse (wait : UInt64) : (left granted : Nat) → Heard σ → Report σ
  | left, granted, heard =>
    match heard.outcome with
    | .error e => ⟨.error e, heard.link, heard.log⟩
    | .ok raw =>
      match react raw with
      | .deliver payload => ⟨.ok payload, heard.link, heard.log⟩
      | .corrupt e => ⟨.error (.ofFrameError e), heard.link, heard.log⟩
      | .unsupported pcb =>
        ⟨.error (.unsupportedBlock pcb), heard.link, heard.log ++ [.unsupported pcb]⟩
      | .extend multiplier =>
        match left with
        | 0 =>
          ⟨.error (.extensionsExceeded granted), heard.link,
            heard.log ++ [.extensionsExhausted granted]⟩
        | left + 1 =>
          let frame := (Frame.extension multiplier).toBytes
          let stretched := WaitingTime.extended wait multiplier
          let sent := .extensionSent (granted + 1) multiplier stretched frame
          (converse wait left (granted + 1) (listen heard.link frame heard.buffer stretched)).after
            (heard.log ++ [sent])

/-- Sends `frame`, an information block numbered `number`, and talks on until the attempt ends. -/
def run (config : Config) (number : BlockNumber) (link : σ) (frame : Bytes) : Report σ :=
  let heard := listen link frame (Bytes.zeros config.frameCapacity) config.frameWait
  (converse config.frameWait config.maxExtensions 0 heard).after [.informationSent number frame]

end Proximity.Attempt
