import Roaming.Failure
import Roaming.Settings
import Roaming.Verdict

/-!
# Notices

A notice is one entry of the log: what there is to report, with its level, its text and its fields.
The level says how much attention it deserves; level and text are fixed by the kind of notice,
except that the report on the link in use is `info` when something about it may have changed and
`debug` otherwise. The fields are the data of the entry, each under its name.
-/

namespace Roaming

/-- How much attention a notice deserves. -/
inductive Level where
  /-- Detail of one iteration. -/
  | debug
  /-- A step in the life of the monitor. -/
  | info
  /-- A degraded condition that may pass. -/
  | warn
  /-- A tool that failed. -/
  | error
deriving DecidableEq

namespace Level

/-- The name of a level. -/
def name : Level → String
  | .debug => "debug"
  | .info => "info"
  | .warn => "warn"
  | .error => "error"

end Level

/-- One entry of the log. -/
inductive Notice where
  | learnedSsid (ssid : String)
  /-- Access points were dropped as stale or to make room; so many remain. -/
  | evicted (stale trimmed remaining : Nat)
  | noDefaultRoute (sentinel : Float)
  | lookupFailed (failure : Failure)
  /-- A probe with its mean, its mean deviation and the latency they give. -/
  | probed (gateway : String) (avg mdev latency : Float)
  | unreachable (gateway : String) (sentinel : Float)
  | probeFailed (gateway : String) (failure : Failure)
  | scanned (rows : Nat)
  | pinIgnored (pinned active : String)
  /-- The link in use, at `info` when it is news. -/
  | currentLink (news : Bool) (link : AccessPoint)
  | judged (candidate : AccessPoint) (verdict : Verdict)
  | switching (source : String) (choice : Choice) (dryRun : Bool)
  | restartFailed (bssid : String) (failure : Failure)
  | notAssociated (failure : Failure)
  | iterationFailed (failure : Failure)
  | noWirelessProfile
  | pinLeftAlone
  | clearingPin
  | sleeping (cadence : Cadence) (pause : Span)
  | stopped
deriving DecidableEq

namespace Notice

/-- The level of a notice. -/
def level : Notice → Level
  | .learnedSsid _ => .info
  | .evicted _ _ _ => .debug
  | .noDefaultRoute _ => .warn
  | .lookupFailed _ => .error
  | .probed _ _ _ _ => .debug
  | .unreachable _ _ => .warn
  | .probeFailed _ _ => .error
  | .scanned _ => .debug
  | .pinIgnored _ _ => .warn
  | .currentLink news _ => if news then .info else .debug
  | .judged _ _ => .debug
  | .switching _ _ _ => .info
  | .restartFailed _ _ => .error
  | .notAssociated _ => .warn
  | .iterationFailed _ => .error
  | .noWirelessProfile => .info
  | .pinLeftAlone => .info
  | .clearingPin => .info
  | .sleeping _ _ => .debug
  | .stopped => .info

/-- The text of a notice. -/
def text : Notice → String
  | .learnedSsid _ => "learned roaming ssid"
  | .evicted _ _ _ => "evicted access points"
  | .noDefaultRoute _ => "no default route, using sentinel latency"
  | .lookupFailed _ => "gateway lookup failed, using sentinel latency"
  | .probed _ _ _ _ => "gateway probe"
  | .unreachable _ _ => "gateway unreachable, using sentinel latency"
  | .probeFailed _ _ => "gateway probe failed, using sentinel latency"
  | .scanned _ => "scan complete"
  | .pinIgnored _ _ => "associated access point differs from pinned bssid"
  | .currentLink _ _ => "current link"
  | .judged _ _ => "candidate evaluated"
  | .switching _ _ _ => "switching access point"
  | .restartFailed _ _ => "profile pinned but networking restart failed"
  | .notAssociated _ => "not associated, retrying later"
  | .iterationFailed _ => "iteration failed, retrying later"
  | .noWirelessProfile => "no managed wireless profile, nothing to do"
  | .pinLeftAlone => "dry run, leaving existing bssid pin in place"
  | .clearingPin => "clearing bssid pin"
  | .sleeping _ _ => "sleeping"
  | .stopped => "controller stopped"

/-- The value of a field. -/
inductive Value where
  | text (s : String)
  | number (n : Int)
  | flag (b : Bool)
  | millis (x : Float)
  /-- A latency in milliseconds, which may not be known. -/
  | latency (x : Option Float)
  | verdict (v : Verdict)
  | cadence (c : Cadence)

/-- The fields of a notice in their order. The network of the link in use is told with news only. -/
def fields : Notice → List (String × Value)
  | .learnedSsid ssid => [("ssid", .text ssid)]
  | .evicted stale trimmed remaining =>
    [("stale", .number stale), ("trimmed", .number trimmed), ("remaining", .number remaining)]
  | .noDefaultRoute sentinel => [("sentinel_ms", .millis sentinel)]
  | .lookupFailed failure => [("error", .text failure.message)]
  | .probed gateway avg mdev latency =>
    [("gateway", .text gateway), ("avg_ms", .millis avg), ("mdev_ms", .millis mdev),
      ("latency_ms", .millis latency)]
  | .unreachable gateway sentinel => [("gateway", .text gateway), ("sentinel_ms", .millis sentinel)]
  | .probeFailed gateway failure => [("gateway", .text gateway), ("error", .text failure.message)]
  | .scanned rows => [("observed", .number rows)]
  | .pinIgnored pinned active => [("pinned", .text pinned), ("active", .text active)]
  | .currentLink news link =>
    ("bssid", .text link.bssid) :: (if news then [("ssid", .text link.ssid)] else []) ++
      [("quality", .number link.quality.toInt), ("rate", .number link.rate.toNat),
        ("latency_ms", .latency link.latency)]
  | .judged candidate verdict =>
    [("bssid", .text candidate.bssid), ("quality", .number candidate.quality.toInt),
      ("rate", .number candidate.rate.toNat), ("verdict", .verdict verdict)]
  | .switching source choice dryRun =>
    [("from", .text source), ("to", .text choice.entry.bssid),
      ("score", .number choice.score.toInt), ("quality", .number choice.entry.quality.toInt),
      ("rate", .number choice.entry.rate.toNat), ("dry_run", .flag dryRun)]
  | .restartFailed bssid failure => [("bssid", .text bssid), ("error", .text failure.message)]
  | .notAssociated failure => [("error", .text failure.message)]
  | .iterationFailed failure => [("error", .text failure.message)]
  | .noWirelessProfile => []
  | .pinLeftAlone => []
  | .clearingPin => []
  | .sleeping cadence pause =>
    [("cadence", .cadence cadence), ("interval_secs", .number pause.wholeSeconds)]
  | .stopped => []

/-- A notice as one line of a log, without its fields. -/
def line (n : Notice) : String :=
  n.level.name ++ ": " ++ n.text

theorem nodup_names_fields (n : Notice) : (n.fields.map Prod.fst).Nodup := by
  cases n with
  | currentLink news link => cases news <;> simp [fields]
  | _ => simp [fields]

/-- A notice of a tool that failed tells the failure. -/
theorem error_mem_fields_of_level {n : Notice} (h : n.level = .error) :
    ∃ failure : Failure, ("error", .text failure.message) ∈ n.fields := by
  cases n with
  | lookupFailed failure => exact ⟨failure, List.mem_cons_self⟩
  | probeFailed gateway failure => exact ⟨failure, List.mem_cons_of_mem _ List.mem_cons_self⟩
  | restartFailed bssid failure => exact ⟨failure, List.mem_cons_of_mem _ List.mem_cons_self⟩
  | iterationFailed failure => exact ⟨failure, List.mem_cons_self⟩
  | currentLink news link => cases news <;> simp [level] at h
  | _ => simp [level] at h

end Notice

end Roaming
