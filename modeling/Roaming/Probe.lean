import Roaming.Host

/-!
# Measuring the latency of the link in use

One measurement looks the default gateway up and, if there is one, probes it. It always gives a
latency: whatever keeps it from a usable summary is noted and answered with the sentinel.
-/

namespace Roaming.Latency

variable {σ : Type}

/-- The latency of the link in use, measured with a number of echoes. -/
def measure (host : Host σ) (pings : UInt32) : Action σ Float := do
  match ← host.lookUpGateway with
  | .ok (some gateway) =>
    match ← host.sendProbe gateway pings (deadline pings) with
    | .ok (some times) =>
      Action.note (.probed gateway times.avg times.mdev times.combined)
      return times.combined
    | .ok none =>
      Action.note (.unreachable gateway (sentinel pings))
      return sentinel pings
    | .error failure =>
      Action.note (.probeFailed gateway failure)
      return sentinel pings
  | .ok none =>
    Action.note (.noDefaultRoute (sentinel pings))
    return sentinel pings
  | .error failure =>
    Action.note (.lookupFailed failure)
    return sentinel pings

end Roaming.Latency
