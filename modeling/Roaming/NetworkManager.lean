import Roaming.Host
import Roaming.Route
import Roaming.Text.Utf8

/-!
# A host driven by command-line tools

NetworkManager is driven by the tools `nmcli`, `ip`, `ping` and `systemctl`. Each question to the
host is one command, and its answer is read from what the command left: `commandOf` says which
command, and the functions of `Output` say how it is read. Tools fail by an exit status other than
zero, except that the status of `ping` does not count, since a probe with losses still ends in a
usable summary.
-/

namespace Roaming

/-- A program and its arguments. -/
structure Command where
  /-- The name of the program. -/
  program : String
  /-- Its arguments. -/
  args : List String
deriving DecidableEq

namespace Command

/-- A command as its list of words. -/
def words (c : Command) : List String :=
  c.program :: c.args

/-- Whether a program can be handed the words: a null character would end a word early. -/
def isSound (c : Command) : Bool :=
  c.words.all fun word => !word.toList.contains '\x00'

end Command

/-- What a program left behind. -/
structure Output where
  /-- How it ended. -/
  status : ExitStatus
  /-- What it wrote. -/
  stdout : List UInt8
  /-- What it complained about. -/
  stderr : List UInt8

namespace Output

/-- The text a program wrote. -/
def text (o : Output) : String :=
  Text.Utf8.decodeLossy o.stdout

/-- The text a program wrote, or its failure with its complaint. -/
def textOrFailure (program : String) (o : Output) : Except Failure String :=
  if o.status.isSuccess then .ok o.text
  else .error (.toolFailed program o.status (Text.trim (Text.Utf8.decodeLossy o.stderr)))

end Output

/-- The machine the tools run on. -/
structure Toolbox (τ : Type) where
  /-- Runs a command to its end. -/
  execute : Command → τ → Except SystemError Output × τ
  /-- Waits. -/
  sleep : Span → τ → τ
  /-- Whether the monitor is still wanted. -/
  isRunning : τ → Bool

namespace NetworkManager

/-- The type of a wireless profile. -/
def wirelessType : String := "802-11-wireless"

/-- The property of a profile that holds its pin. -/
def pinProperty : String := "802-11-wireless.bssid"

/-- The command that shows the type of a profile. -/
def showType (profile : String) : Command :=
  ⟨"nmcli", ["-g", "connection.type", "connection", "show", profile]⟩

/-- The command that takes a fresh scan. -/
def listAccessPoints : Command :=
  ⟨"nmcli", ["device", "wifi", "list", "--rescan", "yes"]⟩

/-- The command that shows the default routes. -/
def showDefaultRoutes : Command :=
  ⟨"ip", ["route", "show", "default"]⟩

/-- The command that probes a gateway; its deadline is in whole seconds. -/
def sendEchoes (gateway : String) (count : UInt32) (deadline : Span) : Command :=
  ⟨"ping", ["-U", "-c", toString count.toNat, "-w", toString deadline.wholeSeconds, gateway]⟩

/-- The command that sets the pin of a profile, or clears it. -/
def modifyPin (profile : String) (bssid : Option String) : Command :=
  ⟨"nmcli", ["connection", "modify", profile, pinProperty, bssid.getD ""]⟩

/-- The command that restarts the network. -/
def restartService : Command :=
  ⟨"systemctl", ["restart", "NetworkManager"]⟩

variable {τ : Type} (tools : Toolbox τ)

/-- Runs a command; one that cannot be started is a failure. A command whose words cannot be handed
over is not even tried. -/
def execute (c : Command) (s : τ) : Except Failure Output × τ :=
  if c.isSound then
    let (result, s) := tools.execute c s
    (result.mapError (.notStarted c.program), s)
  else (.error (.notStarted c.program .nullCharacter), s)

/-- Runs a command that has to succeed, and gives the text it wrote. -/
def executeForText (c : Command) (s : τ) : Except Failure String × τ :=
  let (result, s) := execute tools c s
  (result.bind (Output.textOrFailure c.program), s)

/-- Whether the text of a profile's type, or the failure to show it, means a wireless profile: a
profile that the tool does not know is simply not there. -/
def availabilityOf : Except Failure String → Except Failure Bool
  | .ok text => .ok (Text.trim text == wirelessType)
  | .error (.toolFailed _ _ _) => .ok false
  | .error failure => .error failure

/-- The host that manages one profile with the tools. -/
def host (profile : String) : Host τ where
  isAvailable s :=
    let (result, s) := executeForText tools (showType profile) s
    (availabilityOf result, s)
  scan s :=
    let (result, s) := executeForText tools listAccessPoints s
    (result.map Observation.ofTable, s)
  defaultGateway s :=
    let (result, s) := executeForText tools showDefaultRoutes s
    (result.map Route.gateway?, s)
  probe gateway count deadline s :=
    let (result, s) := execute tools (sendEchoes gateway count deadline) s
    (result.map fun o => RoundTrip.ofSummary? o.text, s)
  pin bssid s :=
    let (result, s) := executeForText tools (modifyPin profile bssid) s
    (result.map fun _ => (), s)
  restart s :=
    let (result, s) := executeForText tools restartService s
    (result.map fun _ => (), s)
  sleep := tools.sleep
  isRunning := tools.isRunning

/-- The command behind an event, if there is one. -/
def commandOf (profile : String) : Event → Option Command
  | .asked _ => some (showType profile)
  | .scanned _ => some listAccessPoints
  | .lookedUp _ => some showDefaultRoutes
  | .probed gateway count deadline _ => some (sendEchoes gateway count deadline)
  | .pinned bssid _ => some (modifyPin profile bssid)
  | .restarted _ => some restartService
  | .slept _ => none
  | .noted _ => none

end NetworkManager

end Roaming
