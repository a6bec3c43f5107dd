import Proximity.Session

/-! Sessions put together from settings. A later setting overrides an earlier one of its kind. -/
namespace Proximity

inductive Setting (σ : Type) where
  | link (handle : Handle σ)
  /-- Replaces the configuration as a whole. -/
  | config (config : Config)
  | frameCapacity (bytes : Nat)
  | maxExtensions (count : Nat)
  | frameWait (ms : UInt64)
  | maxResponse (bytes : Nat)

structure Setup (σ : Type) where
  link? : Option (Handle σ) := none
  config : Config := {}

namespace Setup

variable {σ : Type}

def apply (setup : Setup σ) : Setting σ → Setup σ
  | .link handle => { setup with link? := some handle }
  | .config config => { setup with config }
  | .frameCapacity bytes => { setup with config := { setup.config with frameCapacity := bytes } }
  | .maxExtensions count => { setup with config := { setup.config with maxExtensions := count } }
  | .frameWait ms => { setup with config := { setup.config with frameWait := ms } }
  | .maxResponse bytes => { setup with config := { setup.config with maxResponse := bytes } }

def ofSettings (settings : List (Setting σ)) : Setup σ :=
  settings.foldl apply {}

/-- The configuration is checked before the link is missed. -/
def build (setup : Setup σ) : Except Error (Session .idle σ) := do
  setup.config.validate.mapError .ofConfigFault
  match setup.link? with
  | some link => return .start link setup.config
  | none => throw .linkMissing

end Setup

end Proximity
