import Proximity.Setup

/-! A reader from outside: it has a link, alone or within a session, and takes commands. -/
namespace Proximity

inductive Reader (σ : Type) where
  | detached (link : Handle σ)
  | idle (session : Session .idle σ)
  | active (session : Session .active σ)

inductive Command where
  | exchange (frame : Bytes) (bits : Nat) (buffer : Bytes) (wait : UInt64)
  | exchangeBytes (frame buffer : Bytes) (wait : UInt64)
  /-- Gives the link to a new session with an ordinary configuration. -/
  | attach
  /-- Takes the link back from an idle session. -/
  | detach
  | activate
  | release
  | resetSequence
  | deselect
  | request (bytes : Bytes)
  | requestInto (bytes buffer : Bytes)
  | requestApdu (bytes : Bytes)

inductive Answer where
  | done
  | exchanged (outcome : Except LinkError Nat) (buffer : Bytes)
  | deselected (result : Except Failure Unit)
  | response (result : Except Failure Bytes)
  | filled (result : Filled)
  | apdu (result : Except Error ResponseApdu)

namespace Reader

variable {σ : Type}

structure Step (σ : Type) where
  answer : Answer
  reader : Reader σ
  log : List Event

def link : Reader σ → σ
  | detached handle => handle.link
  | idle session => session.link.link
  | active session => session.link.link

def mapLink (f : σ → σ) : Reader σ → Reader σ
  | detached handle => detached ⟨f handle.link⟩
  | idle session => idle { session with link := ⟨f session.link.link⟩ }
  | active session => active { session with link := ⟨f session.link.link⟩ }

def config? : Reader σ → Option Config
  | detached _ => none
  | idle session => some session.config
  | active session => some session.config

def number? : Reader σ → Option BlockNumber
  | detached _ => none
  | idle session => some session.number
  | active session => some session.number

def Step.silent (reader : Reader σ) : Step σ :=
  ⟨.done, reader, []⟩

def Step.ofExchanged (done : Exchanged (Handle σ)) : Step σ :=
  ⟨.exchanged done.outcome done.buffer, detached done.link, []⟩

def Step.ofTurn {ρ : Type} (answer : ρ → Answer) (turn : Turn σ ρ) : Step σ :=
  ⟨answer turn.result, active turn.session, turn.log⟩

/-- Carries a command out, if the reader is in a state to do so. -/
def step? [Link σ] : Reader σ → Command → Option (Step σ)
  | detached handle, .exchange frame bits buffer wait =>
    some (.ofExchanged (Link.exchange handle frame bits buffer wait))
  | detached handle, .exchangeBytes frame buffer wait =>
    some (.ofExchanged (Link.exchangeBytes handle frame buffer wait))
  | detached handle, .attach => some (.silent (idle (.start handle {})))
  | idle session, .detach => some (.silent (detached session.link))
  | idle session, .activate => some (.silent (active session.activate))
  | active session, .release => some (.silent (idle session.release))
  | active session, .resetSequence => some (.silent (active session.resetSequence))
  | active session, .deselect => some (.ofTurn .deselected session.deselect)
  | active session, .request bytes => some (.ofTurn .response (session.request bytes))
  | active session, .requestInto bytes buffer =>
    some (.ofTurn .filled (session.requestInto bytes buffer))
  | active session, .requestApdu bytes => some (.ofTurn .apdu (session.requestApdu bytes))
  | _, _ => none

end Reader

end Proximity
