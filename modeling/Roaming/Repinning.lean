import Roaming.Host

/-!
# Repinning the profile

The profile takes a new pin only when the network restarts, and the link needs a while to come up
after that. So a pin is followed by a restart, and a restart by the settle pause; what fails ends
the sequence.
-/

namespace Roaming.Repinning

variable {σ : Type} (host : Host σ)

/-- Restarts the network and lets the link settle. -/
def restart (settle : Span) : Action σ (Except Failure Unit) := do
  match ← host.doRestart with
  | .error failure => return .error failure
  | .ok () =>
    host.pause settle
    return .ok ()

/-- Pins the profile to a BSSID, without a restart. -/
def pin (bssid : String) : Action σ (Except Failure Unit) :=
  host.setPin (some bssid)

/-- Sets or clears the pin and restarts the network. -/
def pinAndRestart (settle : Span) (bssid : Option String) : Action σ (Except Failure Unit) := do
  match ← host.setPin bssid with
  | .error failure => return .error failure
  | .ok () => restart host settle

/-- Pins the profile to a BSSID and restarts the network. -/
def apply (settle : Span) (bssid : String) : Action σ (Except Failure Unit) :=
  pinAndRestart host settle (some bssid)

/-- Clears the pin of the profile and restarts the network. -/
def reset (settle : Span) : Action σ (Except Failure Unit) :=
  pinAndRestart host settle none

end Roaming.Repinning
