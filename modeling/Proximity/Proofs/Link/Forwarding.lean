import Proximity.ScriptedCard
import Proximity.Proofs.Reader.Run

/-! What a session's hold on a link passes on: single exchanges, and nothing else. -/
namespace Proximity

/-- The link without a way of its own for whole bytes. -/
abbrev Link.plain {σ : Type} (L : Link σ) : Link σ where
  exchange := L.exchange

namespace Handle

variable {σ : Type} [Link σ]

theorem exchange_eq (handle : Handle σ) (frame : Bytes) (bits : Nat) (buffer : Bytes)
    (wait : UInt64) :
    Link.exchange handle frame bits buffer wait =
      (Link.exchange handle.link frame bits buffer wait).map Handle.mk := rfl

theorem exchangeBytes_eq (handle : Handle σ) (frame buffer : Bytes) (wait : UInt64) :
    Link.exchangeBytes handle frame buffer wait =
      (Link.exchange handle.link frame (8 * frame.length) buffer wait).map Handle.mk := rfl

omit [Link σ] in
theorem map_mk_injective : Function.Injective (Exchanged.map (Handle.mk (σ := σ))) := by
  rintro ⟨outcome, buffer, link⟩ ⟨outcome', buffer', link'⟩ h
  cases h
  rfl

/-- Whole bytes are passed on faithfully just when the link sends them as a single exchange itself. -/
theorem exchangeBytes_eq_iff (handle : Handle σ) (frame buffer : Bytes) (wait : UInt64) :
    Link.exchangeBytes handle frame buffer wait =
        (Link.exchangeBytes handle.link frame buffer wait).map Handle.mk ↔
      Link.exchangeBytes handle.link frame buffer wait =
        Link.exchange handle.link frame (8 * frame.length) buffer wait := by
  rw [exchangeBytes_eq, map_mk_injective.eq_iff, eq_comm]

end Handle

namespace Reader

variable {σ : Type}

/-- Every command goes through the handle, which sees single exchanges alone. -/
theorem step?_plain (L : Link σ) (reader : Reader σ) (command : Command) :
    @step? σ L reader command = @step? σ L.plain reader command := by
  cases reader <;> cases command <;> rfl

theorem steps_plain (L : Link σ) (reader : Reader σ) (commands : List Command) :
    @steps σ L reader commands = @steps σ L.plain reader commands := by
  induction commands generalizing reader with
  | nil => rfl
  | cons command later ih =>
    simp only [steps, step?_plain L, ih]

end Reader

/-- A chip that will only do whole bytes, in a way of its own. -/
structure ByteMode (σ : Type) where
  inner : σ

instance {σ : Type} [Link σ] : Link (ByteMode σ) where
  exchange chip _ _ buffer _ := ⟨.error (.status 0x00), buffer, chip⟩
  exchangeBytes chip frame buffer wait :=
    (Link.exchangeBytes chip.inner frame buffer wait).map ByteMode.mk

namespace Handle

/-- Held by a session, a link is used through single exchanges alone. For whole bytes that is
faithful just where the link does the same itself. -/
theorem passes_on_single_exchanges {σ : Type} [L : Link σ] (handle : Handle σ) (frame : Bytes)
    (bits : Nat) (buffer : Bytes) (wait : UInt64) (reader : Reader σ) (commands : List Command) :
    Link.exchange handle frame bits buffer wait =
        (Link.exchange handle.link frame bits buffer wait).map Handle.mk ∧
      (Link.exchangeBytes handle frame buffer wait =
          (Link.exchangeBytes handle.link frame buffer wait).map Handle.mk ↔
        Link.exchangeBytes handle.link frame buffer wait =
          Link.exchange handle.link frame (8 * frame.length) buffer wait) ∧
      reader.steps commands = @Reader.steps σ L.plain reader commands :=
  ⟨exchange_eq handle frame bits buffer wait, exchangeBytes_eq_iff handle frame buffer wait,
    Reader.steps_plain L reader commands⟩

/-- A chip with a way of its own for whole bytes is of no use to a session. -/
theorem exchangeBytes_not_passed_on :
    let chip : ByteMode ScriptedCard := ⟨{ queue := [.whole [0x02, 0x90, 0x00, 0xF1, 0x09]] }⟩
    let s : Session .active (ByteMode ScriptedCard) := ⟨⟨chip⟩, {}, .zero⟩
    (Link.exchangeBytes chip [0x50, 0x00] (Bytes.zeros 8) 1).outcome = .ok 40 ∧
      (Link.exchangeBytes s.link [0x50, 0x00] (Bytes.zeros 8) 1).outcome =
        .error (.status 0x00) ∧
      (s.request [0xA2]).result = .error (.link (.status 0x00)) ∧
      ¬∀ {σ : Type} [Link σ] (handle : Handle σ) (frame buffer : Bytes) (wait : UInt64),
        Link.exchangeBytes handle frame buffer wait =
          (Link.exchangeBytes handle.link frame buffer wait).map Handle.mk := by
  intro chip s
  have hdirect : (Link.exchangeBytes chip [0x50, 0x00] (Bytes.zeros 8) 1).outcome = .ok 40 := by
    decide
  have hheld : (Link.exchangeBytes s.link [0x50, 0x00] (Bytes.zeros 8) 1).outcome =
      .error (.status 0x00) := rfl
  refine ⟨hdirect, hheld, by decide, fun hall => ?_⟩
  have hsame := congrArg Exchanged.outcome (hall s.link [0x50, 0x00] (Bytes.zeros 8) 1)
  rw [hheld] at hsame
  cases hsame.trans hdirect

end Handle

end Proximity
