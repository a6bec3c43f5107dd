import Proximity.ScriptedCard
import Proximity.Proofs.Attempt.Course

/-! Links that keep account of all they are sent, and what an attempt adds to the account. -/
namespace Proximity

def Transmission.whole (frame : Bytes) (wait : UInt64) : Transmission :=
  ⟨frame, 8 * frame.length, wait⟩

/-- A link that records each exchange in order, whatever comes of it. -/
class Recording (σ : Type) extends Link σ where
  sent : σ → List Transmission
  sent_exchange (link : σ) (frame : Bytes) (bits : Nat) (buffer : Bytes) (wait : UInt64) :
    sent (exchange link frame bits buffer wait).link =
      sent link ++ [⟨ScriptedCard.transmitted frame bits, bits, wait⟩]

instance : Recording ScriptedCard where
  sent := ScriptedCard.sent
  sent_exchange _ _ _ _ _ := rfl

/-- Any link, with an account of what it was sent beside it. -/
structure Recorded (σ : Type) where
  link : σ
  sent : List Transmission := []

instance {σ : Type} [Link σ] : Recording (Recorded σ) where
  exchange recorded frame bits buffer wait :=
    (Link.exchange recorded.link frame bits buffer wait).map fun link =>
      ⟨link, recorded.sent ++ [⟨ScriptedCard.transmitted frame bits, bits, wait⟩]⟩
  sent := Recorded.sent
  sent_exchange _ _ _ _ _ := rfl

theorem ScriptedCard.transmitted_whole (frame : Bytes) :
    transmitted frame (8 * frame.length) = frame := by
  have hbits : (8 * frame.length + 7) / 8 = frame.length := by omega
  rw [transmitted, hbits, List.take_length]

namespace Attempt

variable {σ : Type}

/-- The answer to a request for more time repeats its multiplier. -/
def acknowledgement (wait : UInt64) (multiplier : UInt8) : Transmission :=
  .whole (Crc.append [Pcb.extension, multiplier]) (WaitingTime.extended wait multiplier)

variable [Recording σ]

theorem sent_listen (handle : Handle σ) (frame buffer : Bytes) (wait : UInt64) :
    Recording.sent (listen handle frame buffer wait).link.link =
      Recording.sent handle.link ++ [.whole frame wait] := by
  have h := Recording.sent_exchange handle.link frame (8 * frame.length) buffer wait
  rw [ScriptedCard.transmitted_whole] at h
  rw [link_listen]
  exact h

/-- On its course an attempt sends one acknowledgement for each request and nothing else. -/
theorem Course.sent {wait : UInt64} {heard last : Heard (Handle σ)} {ms : List UInt8}
    (h : Course wait heard ms last) :
    Recording.sent last.link.link =
      Recording.sent heard.link.link ++ ms.map (acknowledgement wait) := by
  induction h with
  | refl heard => rw [List.map_nil, List.append_nil]
  | grant _ _ ih =>
    rw [ih, Attempt.grant, sent_listen, List.append_assoc]
    rfl

theorem Course.sent_opened {config : Config} {handle : Handle σ} {frame : Bytes}
    {last : Heard (Handle σ)} {ms : List UInt8}
    (h : Course config.frameWait (opened config handle frame) ms last) :
    Recording.sent last.link.link = Recording.sent handle.link ++
      .whole frame config.frameWait :: ms.map (acknowledgement config.frameWait) := by
  rw [h.sent, opened, sent_listen, List.append_assoc]
  rfl

/-- An attempt sends its frame first, and after it nothing but acknowledgements. -/
theorem sent_run (config : Config) (number : BlockNumber) (handle : Handle σ) (frame : Bytes) :
    ∃ ms : List UInt8, Recording.sent (run config number handle frame).link.link =
      Recording.sent handle.link ++
        .whole frame config.frameWait :: ms.map (acknowledgement config.frameWait) := by
  obtain ⟨ms, last, hcourse, -, -, heq⟩ := run_eq config number handle frame
  refine ⟨ms, ?_⟩
  rw [heq, Report.after, link_ending, hcourse.sent_opened]

end Attempt

end Proximity
