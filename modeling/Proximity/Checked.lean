import Proximity.ScriptedCard
import Proximity.Session

/-!
The operations of a session on a machine that stops at a fault: each cut, read, copy and difference
is checked as it is made.
-/
namespace Proximity

inductive Fault where
  | outOfRange (index length : Nat)
  | underflow (minuend subtrahend : Nat)
  | oversized (e : Oversized)
deriving DecidableEq

namespace Checked

def minus (a b : Nat) : Except Fault Nat :=
  if a < b then .error (.underflow a b) else .ok (a - b)

def byteAt (bytes : Bytes) (i : Nat) : Except Fault UInt8 :=
  match bytes[i]? with
  | some b => .ok b
  | none => .error (.outOfRange i bytes.length)

def front (bytes : Bytes) (i : Nat) : Except Fault Bytes :=
  if bytes.length < i then .error (.outOfRange i bytes.length) else .ok (bytes.take i)

def back (bytes : Bytes) (i : Nat) : Except Fault Bytes :=
  if bytes.length < i then .error (.outOfRange i bytes.length) else .ok (bytes.drop i)

def copy (buffer bytes : Bytes) : Except Fault Bytes :=
  if buffer.length < bytes.length then .error (.outOfRange bytes.length buffer.length)
  else .ok (Bytes.overwrite buffer bytes)

def decode (raw : Bytes) : Except Fault (Except FrameError Block) :=
  if raw.length < Frame.minLength then .ok (.error (.tooShort raw.length))
  else do
    let cut ← minus raw.length 2
    let body ← front raw cut
    let trailer ← back raw cut
    let expected := Crc.trailer body
    if trailer = expected.toBytes then
      let pcb ← byteAt body 0
      let inf ← back body 1
      return .ok (Block.ofFrame ⟨pcb, inf, expected⟩)
    else
      let low ← byteAt trailer 0
      let high ← byteAt trailer 1
      return .error (.crcMismatch expected ⟨low, high⟩)

/-- One exchange with a scripted card, which cuts what it records and copies what it answers. -/
def exchange (card : ScriptedCard) (frame : Bytes) (bits : Nat) (buffer : Bytes) (wait : UInt64) :
    Except Fault (Exchanged ScriptedCard) := do
  let sent ← front frame (min ((bits + 7) / 8) frame.length)
  let later := card.advance ⟨sent, bits, wait⟩
  match card.next? with
  | none => return ⟨.error .timeout, buffer, later⟩
  | some (.fail e) => return ⟨.error e, buffer, later⟩
  | some (.answer answer bits) =>
    if buffer.length < answer.length then return ⟨.error .overflow, buffer, later⟩
    else
      let buffer ← copy buffer answer
      return ⟨.ok bits, buffer, later⟩

/-- A report beyond the buffer is cut down to it before the buffer is cut. -/
def listen (link : Handle ScriptedCard) (frame buffer : Bytes) (wait : UInt64) :
    Except Fault (Attempt.Heard (Handle ScriptedCard)) := do
  let done ← exchange link.link frame (8 * frame.length) buffer wait
  match done.outcome with
  | .error e => return ⟨.error (.link e), ⟨done.link⟩, done.buffer, [.linkFailed e]⟩
  | .ok bits =>
    if bits < 8 * Frame.minLength then
      return ⟨.error (.frameTooShort bits), ⟨done.link⟩, done.buffer, []⟩
    else
      let raw ← front done.buffer (min (bits / 8) done.buffer.length)
      return ⟨.ok raw, ⟨done.link⟩, done.buffer, [.received raw]⟩

/-- What a frame asks for, going by how it was read. -/
def reaction : Except FrameError Block → Attempt.Reaction
  | .error e => .corrupt e
  | .ok (.information _ payload) => .deliver payload
  | .ok (.supervisory pcb (multiplier :: _)) =>
    if pcb.isExtension then .extend multiplier else .unsupported pcb
  | .ok block => .unsupported block.pcb

def converse (wait : UInt64) : (left granted : Nat) → Attempt.Heard (Handle ScriptedCard) →
    Except Fault (Attempt.Report (Handle ScriptedCard))
  | left, granted, heard =>
    match heard.outcome with
    | .error e => .ok ⟨.error e, heard.link, heard.log⟩
    | .ok raw => do
      let read ← decode raw
      match reaction read with
      | .deliver payload => return ⟨.ok payload, heard.link, heard.log⟩
      | .corrupt e => return ⟨.error (.ofFrameError e), heard.link, heard.log⟩
      | .unsupported pcb =>
        return ⟨.error (.unsupportedBlock pcb), heard.link, heard.log ++ [.unsupported pcb]⟩
      | .extend multiplier =>
        match left with
        | 0 =>
          return ⟨.error (.extensionsExceeded granted), heard.link,
            heard.log ++ [.extensionsExhausted granted]⟩
        | left + 1 =>
          let frame := (Frame.extension multiplier).toBytes
          let stretched := WaitingTime.extended wait multiplier
          let sent := .extensionSent (granted + 1) multiplier stretched frame
          let next ← listen heard.link frame heard.buffer stretched
          let report ← converse wait left (granted + 1) next
          return report.after (heard.log ++ [sent])

def run (config : Config) (number : BlockNumber) (link : Handle ScriptedCard) (frame : Bytes) :
    Except Fault (Attempt.Report (Handle ScriptedCard)) := do
  let heard ← listen link frame (Bytes.zeros config.frameCapacity) config.frameWait
  let report ← converse config.frameWait config.maxExtensions 0 heard
  return report.after [.informationSent number frame]

def requestInto (s : Session .active ScriptedCard) (request buffer : Bytes) :
    Except Fault (Turn ScriptedCard Filled) :=
  match Frame.information s.number request s.config.maxPayload with
  | .error e => .error (.oversized e)
  | .ok frame => do
    let report ← run s.config s.number s.link frame.toBytes
    match report.outcome with
    | .error e => return ⟨⟨.error e, buffer⟩, { s with link := report.link }, report.log⟩
    | .ok payload =>
      let later := { s with link := report.link, number := s.number.toggle }
      if buffer.length < payload.length then
        return ⟨⟨.error (.responseTooLarge payload.length buffer.length), buffer⟩, later, report.log⟩
      else
        let buffer ← copy buffer payload
        return ⟨⟨.ok payload.length, buffer⟩, later, report.log⟩

def response (filled : Filled) : Except Failure Bytes :=
  filled.length.map filled.buffer.take

def request (s : Session .active ScriptedCard) (request : Bytes) :
    Except Fault (Turn ScriptedCard (Except Failure Bytes)) := do
  let turn ← requestInto s request (Bytes.zeros s.config.maxResponse)
  return turn.map response

def statusAt (bytes : Bytes) (i : Nat) : Except Fault (Except LengthError StatusWord) :=
  if bytes.length < i + 2 then .ok (.error ⟨i + 2, bytes.length⟩)
  else do
    let sw1 ← byteAt bytes i
    let sw2 ← byteAt bytes (i + 1)
    return .ok ⟨sw1, sw2⟩

def parse (bytes : Bytes) : Except Fault (Except LengthError ResponseApdu) :=
  if bytes.length < 2 then .ok (.error ⟨2, bytes.length⟩)
  else do
    let cut ← minus bytes.length 2
    match ← statusAt bytes cut with
    | .error e => return .error e
    | .ok status =>
      let data ← front bytes cut
      return .ok ⟨data, status⟩

def requestApdu (s : Session .active ScriptedCard) (bytes : Bytes) :
    Except Fault (Turn ScriptedCard (Except Error ResponseApdu)) := do
  let turn ← request s bytes
  match turn.result with
  | .error e => return turn.map fun _ => .error (.attempt e)
  | .ok payload =>
    let apdu ← parse payload
    return turn.map fun _ => apdu.mapError .invalidLength

/-- Whether the card agreed to be deselected, going by how its answer was read. -/
def confirmation : Except FrameError Block → Except Failure Unit
  | .error e => .error (.ofFrameError e)
  | .ok (.supervisory pcb _) => if pcb.isDeselect then .ok () else .error (.unsupportedBlock pcb)
  | .ok block => .error (.unsupportedBlock block.pcb)

def deselect (s : Session .active ScriptedCard) :
    Except Fault (Turn ScriptedCard (Except Failure Unit)) := do
  let frame := Frame.deselect.toBytes
  let heard ← listen s.link frame (Bytes.zeros s.config.frameCapacity) s.config.frameWait
  let result ← match heard.outcome with
    | .error e => pure (.error e)
    | .ok raw => confirmation <$> decode raw
  return ⟨result, { s with link := heard.link, number := .zero }, .deselectSent frame :: heard.log⟩

end Checked

end Proximity
