import Proximity.Proofs.Setup.Build
import Mathlib.Data.List.Induction

/-! What a row of settings comes to: the last one that writes a field counts. -/
namespace Proximity

namespace Config

theorem validate_eq_ok_iff_toNat (config : Config) :
    config.validate = .ok () ↔ 4 ≤ config.frameCapacity ∧ 0 < config.frameWait.toNat ∧
      config.maxResponse ≤ config.frameCapacity - 3 := by
  have hwait : config.frameWait = 0 ↔ config.frameWait.toNat = 0 := UInt64.toNat_inj.symm
  simp only [validate_eq_ok_iff, ne_eq, hwait, ← Nat.pos_iff_ne_zero]
  rfl

/-- The three refusals in the order of the conditions, each with its text. -/
theorem refused_iff (config : Config) {e : Error} :
    (∃ fault, config.validate = .error fault ∧ e = .ofConfigFault fault) ↔
      (config.frameCapacity < 4 ∧ e = .invalidConfig
        s!"frame_capacity {config.frameCapacity} leaves no room for payload") ∨
      (4 ≤ config.frameCapacity ∧ config.frameWait.toNat = 0 ∧
        e = .invalidConfig "frame_wait_ms must be positive") ∨
      (4 ≤ config.frameCapacity ∧ 0 < config.frameWait.toNat ∧
        config.frameCapacity - 3 < config.maxResponse ∧ e = .invalidConfig
          s!"max_response_len {config.maxResponse} exceeds frame payload {config.frameCapacity - 3}") := by
  have hwait : config.frameWait = 0 ↔ config.frameWait.toNat = 0 := UInt64.toNat_inj.symm
  simp only [validate_eq_error_iff, or_and_right, exists_or, and_assoc, exists_and_left,
    exists_eq_left, ne_eq, hwait, ← Nat.pos_iff_ne_zero]
  rw [← Nat.lt_succ_iff]
  rfl

end Config

namespace Setting

variable {σ α : Type}

def link? : Setting σ → Option (Handle σ)
  | .link handle => some handle
  | _ => none

def frameCapacity? : Setting σ → Option Nat
  | .config c => some c.frameCapacity
  | .frameCapacity bytes => some bytes
  | _ => none

def maxExtensions? : Setting σ → Option Nat
  | .config c => some c.maxExtensions
  | .maxExtensions count => some count
  | _ => none

def frameWait? : Setting σ → Option UInt64
  | .config c => some c.frameWait
  | .frameWait ms => some ms
  | _ => none

def maxResponse? : Setting σ → Option Nat
  | .config c => some c.maxResponse
  | .maxResponse bytes => some bytes
  | _ => none

/-- What stands in the last of the settings that write a field. -/
def latest? (written? : Setting σ → Option α) (settings : List (Setting σ)) : Option α :=
  (settings.filterMap written?).getLast?

theorem latest?_concat (written? : Setting σ → Option α) (settings : List (Setting σ))
    (setting : Setting σ) :
    latest? written? (settings ++ [setting]) =
      (written? setting).or (latest? written? settings) := by
  rw [latest?, List.filterMap_append, List.getLast?_append]
  cases h : written? setting <;> simp [h, latest?]

theorem latest?_eq_none_iff {written? : Setting σ → Option α} {settings : List (Setting σ)} :
    latest? written? settings = none ↔ ∀ setting ∈ settings, written? setting = none := by
  rw [latest?, List.getLast?_eq_none_iff, List.filterMap_eq_nil_iff]

theorem link?_eq_some_iff {setting : Setting σ} {handle : Handle σ} :
    setting.link? = some handle ↔ setting = .link handle := by
  cases setting <;> simp [link?]

theorem latest?_link?_eq_none_iff {settings : List (Setting σ)} :
    latest? link? settings = none ↔ ∀ handle, Setting.link handle ∉ settings := by
  rw [latest?_eq_none_iff]
  constructor
  · intro h handle hmem
    cases h _ hmem
  · intro h setting hmem
    rw [Option.eq_none_iff_forall_ne_some]
    intro handle hlink
    rw [link?_eq_some_iff.mp hlink] at hmem
    exact h handle hmem

end Setting

namespace Setup

variable {σ : Type}

/-- Every field as it was last written, or else its ordinary value. -/
def effective (settings : List (Setting σ)) : Config :=
  let ordinary : Config := {}
  { frameCapacity := (Setting.latest? Setting.frameCapacity? settings).getD ordinary.frameCapacity
    maxExtensions := (Setting.latest? Setting.maxExtensions? settings).getD ordinary.maxExtensions
    frameWait := (Setting.latest? Setting.frameWait? settings).getD ordinary.frameWait
    maxResponse := (Setting.latest? Setting.maxResponse? settings).getD ordinary.maxResponse }

/-- One more setting: what it writes is new, and all else is as before. -/
theorem apply_eq (setup : Setup σ) (setting : Setting σ) :
    setup.apply setting =
      { link? := setting.link?.or setup.link?
        config :=
          { frameCapacity := setting.frameCapacity?.getD setup.config.frameCapacity
            maxExtensions := setting.maxExtensions?.getD setup.config.maxExtensions
            frameWait := setting.frameWait?.getD setup.config.frameWait
            maxResponse := setting.maxResponse?.getD setup.config.maxResponse } } := by
  cases setting <;> rfl

/-- A row of settings comes to what was written last in each place. -/
theorem ofSettings_eq (settings : List (Setting σ)) :
    ofSettings settings = ⟨Setting.latest? Setting.link? settings, effective settings⟩ := by
  induction settings using List.reverseRecOn with
  | nil => rfl
  | append_singleton settings setting ih =>
    have hlast : ofSettings (settings ++ [setting]) = (ofSettings settings).apply setting := by
      rw [ofSettings, List.foldl_append]
      rfl
    rw [hlast, ih, apply_eq]
    simp only [effective, Setting.latest?_concat, Option.getD_or]

/-- Settings give a session just when a link is among them and what they come to is sound. Else the
refusal gives the first condition that fails, with the missing link last. -/
theorem build_ofSettings (settings : List (Setting σ)) :
    let config := effective settings
    let sound := 4 ≤ config.frameCapacity ∧ 0 < config.frameWait.toNat ∧
      config.maxResponse ≤ config.frameCapacity - 3
    let built := (ofSettings settings).build
    ((∃ s, built = .ok s) ↔ (∃ handle, Setting.link handle ∈ settings) ∧ sound) ∧
    (∀ s, built = .ok s ↔ sound ∧ Setting.latest? Setting.link? settings = some s.link ∧
      s.config = config ∧ s.number = .zero) ∧
    ∀ e, built = .error e ↔
      (config.frameCapacity < 4 ∧ e = .invalidConfig
        s!"frame_capacity {config.frameCapacity} leaves no room for payload") ∨
      (4 ≤ config.frameCapacity ∧ config.frameWait.toNat = 0 ∧
        e = .invalidConfig "frame_wait_ms must be positive") ∨
      (4 ≤ config.frameCapacity ∧ 0 < config.frameWait.toNat ∧
        config.frameCapacity - 3 < config.maxResponse ∧ e = .invalidConfig
          s!"max_response_len {config.maxResponse} exceeds frame payload {config.frameCapacity - 3}") ∨
      (sound ∧ (∀ handle, Setting.link handle ∉ settings) ∧ e = .linkMissing) := by
  intro config sound built
  have hsound : config.validate = .ok () ↔ sound := config.validate_eq_ok_iff_toNat
  have hok : ∀ s, built = .ok s ↔ sound ∧
      Setting.latest? Setting.link? settings = some s.link ∧ s.config = config ∧
        s.number = .zero := by
    rintro ⟨link, c, number⟩
    simp only [built, build_eq_ok_iff, ofSettings_eq, Session.start, Session.mk.injEq]
    rw [hsound]
    constructor
    · rintro ⟨hvalid, handle, hlink, rfl, rfl, rfl⟩
      exact ⟨hvalid, hlink, rfl, rfl⟩
    · rintro ⟨hvalid, hlink, rfl, rfl⟩
      exact ⟨hvalid, link, hlink, rfl, rfl, rfl⟩
  refine ⟨⟨?_, ?_⟩, hok, fun e => ?_⟩
  · rintro ⟨s, hs⟩
    obtain ⟨hvalid, hlink, -⟩ := (hok s).mp hs
    refine ⟨?_, hvalid⟩
    by_contra hnone
    rw [Setting.latest?_link?_eq_none_iff.mpr (not_exists.mp hnone)] at hlink
    cases hlink
  · rintro ⟨⟨handle, hmem⟩, hvalid⟩
    have hsome : Setting.latest? Setting.link? settings ≠ none := fun hnone =>
      Setting.latest?_link?_eq_none_iff.mp hnone handle hmem
    obtain ⟨last, hlast⟩ := Option.ne_none_iff_exists'.mp hsome
    exact ⟨.start last config, (hok _).mpr ⟨hvalid, hlast, rfl, rfl⟩⟩
  · simp only [built, build_eq_error_iff, ofSettings_eq, Setting.latest?_link?_eq_none_iff]
    rw [config.refused_iff, hsound, or_assoc, or_assoc]

/-- A whole configuration takes back what was set one by one before it, and the later link replaces
the earlier one. -/
example (early late : Handle σ) :
    (ofSettings [.link early, .frameCapacity 2, .config { frameCapacity := 16, maxResponse := 13 },
      .link late, .frameWait 250]).build =
      .ok (.start late { frameCapacity := 16, frameWait := 250, maxResponse := 13 }) := rfl

end Setup

end Proximity
