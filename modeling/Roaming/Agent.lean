import Roaming.Agent.Options
import Roaming.Monitor
import Roaming.NetworkManager
import Roaming.Settings.Document

/-!
# The agent

The agent reads its command line, loads its settings, and runs the monitor on the command-line
tools. The settings are those of the document, if one is named, with the profile of the command line
in the place of its own. Nothing is run before the settings are sound.

A run ends with an exit code: zero for success and for help, two for a fault in the command line,
and one for a failure, which is reported together with the causes behind it, the outermost first.
-/

namespace Roaming.Agent

/-- Why the agent gave up. -/
inductive AgentFailure where
  /-- The settings document could not be read. -/
  | reading (path : String) (cause : SystemError)
  /-- The settings document is refused. -/
  | parsing (path : String) (fault : SettingsFault)
  /-- The profile of the command line is blank. -/
  | emptyProfile
  | monitor (failure : Failure)
deriving DecidableEq

namespace AgentFailure

/-- The texts of a failure and of the causes behind it, outermost first. -/
def causes : AgentFailure → List String
  | .reading path cause => ["reading config " ++ path, cause.message]
  | .parsing path fault => ["parsing config " ++ path, (Failure.badSettings fault).message]
  | .emptyProfile => ["--profile must not be empty"]
  | .monitor failure => failure.chain

end AgentFailure

/-- What reading a file gives: its octets, or the refusal of the operating system. -/
abbrev Disk : Type :=
  String → Except SystemError (List UInt8)

/-- The text of a file, which has to be UTF-8. -/
def readText (disk : Disk) (path : String) : Except SystemError String :=
  match disk path with
  | .error cause => .error cause
  | .ok octets =>
    match Text.Utf8.decode? octets with
    | some text => .ok text
    | none => .error (.described "stream did not contain valid UTF-8")

/-- The settings of a document, or the default ones if none is named. -/
def settingsOf (disk : Disk) : Option String → Except AgentFailure Settings
  | none => .ok .default
  | some path =>
    match readText disk path with
    | .error cause => .error (.reading path cause)
    | .ok text => (Settings.ofDocument text).mapError (.parsing path)

/-- Settings with the profile of the command line, if it names one. -/
def withProfile (s : Settings) : Option String → Except AgentFailure Settings
  | none => .ok s
  | some profile =>
    let profile := Text.trim profile
    if profile = "" then .error .emptyProfile else .ok { s with profile }

/-- The settings that a command line asks for. -/
def loadSettings (disk : Disk) (options : Options) : Except AgentFailure Settings := do
  let s ← settingsOf disk options.config
  withProfile s options.profile

/-- How the agent ended. -/
inductive Ending where
  | helped
  | misused (fault : UsageFault)
  | failed (failure : AgentFailure)
  | succeeded
  /-- The agent was still wanted after the allowed number of iterations. -/
  | unfinished
deriving DecidableEq

namespace Ending

/-- The exit code of an ending. -/
def exitCode : Ending → Nat
  | .helped => 0
  | .misused _ => 2
  | .failed _ => 1
  | .succeeded => 0
  | .unfinished => 0

/-- The causes reported at an ending. -/
def causes : Ending → List String
  | .failed failure => failure.causes
  | _ => []

end Ending

variable {τ : Type} (tools : Toolbox τ)

/-- The ending that the outcome of the monitor means. -/
def endingOf : Except Failure Unit → Ending
  | .ok () => .succeeded
  | .error failure => .failed (.monitor failure)

/-- Runs the monitor with sound settings, for at most `limit` iterations. -/
def monitor (limit : Nat) (s : Settings) (options : Options) : Action τ Ending := do
  let host := NetworkManager.host tools s.profile
  let m := Monitor.new s options.dryRun
  if options.once then
    let ran ← m.runOnce host
    return endingOf ran.1
  else
    let ran ← m.run host limit
    return (ran.1.map endingOf).getD .unfinished

/-- Runs the agent on the words of a command line. -/
def run (limit : Nat) (disk : Disk) (words : List String) : Action τ Ending :=
  match Request.ofWords words with
  | .error fault => return .misused fault
  | .ok .help => return .helped
  | .ok (.run options) =>
    match loadSettings disk options with
    | .error failure => return .failed failure
    | .ok s => monitor tools limit s options

end Roaming.Agent
