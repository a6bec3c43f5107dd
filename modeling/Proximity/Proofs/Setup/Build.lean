import Proximity.Setup
import Mathlib.Tactic.SplitIfs

/-! Which sessions can be built. -/
namespace Proximity

theorem Config.validate_eq_ok_iff {config : Config} :
    config.validate = .ok () ↔
      Frame.overhead < config.frameCapacity ∧ config.frameWait ≠ 0 ∧
        config.maxResponse ≤ config.maxPayload := by
  unfold validate
  split_ifs with hc hw hr
  · simp [Nat.not_lt.mpr hc]
  · simp [hw]
  · simp [Nat.not_le.mpr hr]
  · simp [Nat.not_le.mp hc, hw, Nat.not_lt.mp hr]

/-- A refusal names the first condition that fails. -/
theorem Config.validate_eq_error_iff {config : Config} {fault : ConfigFault} :
    config.validate = .error fault ↔
      (config.frameCapacity ≤ Frame.overhead ∧ fault = .noPayload config.frameCapacity) ∨
      (Frame.overhead < config.frameCapacity ∧ config.frameWait = 0 ∧ fault = .noWait) ∨
      (Frame.overhead < config.frameCapacity ∧ config.frameWait ≠ 0 ∧
        config.maxPayload < config.maxResponse ∧
        fault = .responseTooLong config.maxResponse config.maxPayload) := by
  unfold validate
  split_ifs with hc hw hr
  · simp [hc, Nat.not_lt.mpr hc, eq_comm]
  · simp [hc, Nat.not_le.mp hc, hw, eq_comm]
  · simp [hc, Nat.not_le.mp hc, hw, hr, eq_comm]
  · simp [hc, hw, hr]

theorem Setup.build_eq_ok_iff {σ : Type} {setup : Setup σ} {s : Session .idle σ} :
    setup.build = .ok s ↔
      setup.config.validate = .ok () ∧
        ∃ handle, setup.link? = some handle ∧ s = .start handle setup.config := by
  unfold build
  cases hv : setup.config.validate with
  | error e => simp [Except.mapError, bind, Except.bind]
  | ok u =>
    cases hl : setup.link? with
    | none => simp [Except.mapError, bind, Except.bind, throw, throwThe, MonadExceptOf.throw]
    | some handle => simp [Except.mapError, bind, Except.bind, pure, Except.pure, eq_comm]

/-- The link is missed only where the configuration has been found sound. -/
theorem Setup.build_eq_error_iff {σ : Type} {setup : Setup σ} {e : Error} :
    setup.build = .error e ↔
      (∃ fault, setup.config.validate = .error fault ∧ e = .ofConfigFault fault) ∨
      (setup.config.validate = .ok () ∧ setup.link? = none ∧ e = .linkMissing) := by
  unfold build
  cases hv : setup.config.validate with
  | error fault => simp [Except.mapError, bind, Except.bind, eq_comm]
  | ok u =>
    cases hl : setup.link? with
    | none =>
      simp [Except.mapError, bind, Except.bind, throw, throwThe, MonadExceptOf.throw, eq_comm]
    | some handle => simp [Except.mapError, bind, Except.bind, pure, Except.pure]

theorem Setup.validate_of_build {σ : Type} {setup : Setup σ} {s : Session .idle σ}
    (built : setup.build = .ok s) : s.config.validate = .ok () := by
  obtain ⟨hvalid, handle, -, rfl⟩ := Setup.build_eq_ok_iff.mp built
  exact hvalid

end Proximity
