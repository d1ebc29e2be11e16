import Roaming.Agent.Transcript

/-!
# The agent as a program

Reads the settings document, converses with the supervisor over standard input and output, writes
the log to standard error, and ends with the exit code of the agent. The end of the supervisor's
reports counts as the wish to stop.
-/

namespace Roaming.Agent

/-- The usage of the command line. -/
def usage : String :=
  "Unattended Wi-Fi roaming agent\n\n" ++
  "Usage: roam-agent [OPTIONS]\n\n" ++
  "Options:\n" ++
  "      --config <CONFIG>    TOML config file; built-in defaults are used when omitted\n" ++
  "      --profile <PROFILE>  NetworkManager connection profile to manage " ++
  "(overrides the config)\n" ++
  "      --once               Run start-up and a single monitoring iteration, then exit\n" ++
  "      --dry-run            Scan, probe and score, but never pin or restart networking\n" ++
  "  -h, --help               Print help"

/-- More iterations than the agent makes in its life. -/
def lifetime : Nat := UInt64.size

/-- The refusal behind an error of reading a file. -/
def refusalOf : IO.Error → SystemError
  | .noFileOrDirectory _ _ _ => .notFound
  | .permissionDenied _ _ _ => .denied
  | .inappropriateType _ code _ => .number code.toNat
  | e => .described (toString e)

/-- Reads the settings document of a command line, if it names one. -/
def loadDisk (words : List String) : IO Disk := do
  match Request.ofWords words with
  | .ok (.run { config := some path, .. }) =>
    try
      let octets ← IO.FS.readBinFile path
      return fun _ => .ok octets.toList
    catch e => return fun _ => .error (refusalOf e)
  | _ => return fun _ => .error .notFound

/-- Reports how the agent ended. -/
def conclude (ending : Ending) : IO UInt32 := do
  match ending with
  | .helped => IO.println usage
  | .misused fault => IO.eprintln ("error: " ++ fault.message)
  | _ =>
    for cause in ending.causes do
      IO.eprintln ("error: " ++ cause)
  return UInt32.ofNat ending.exitCode

/-- The value of a field in the log. -/
def shown : Notice.Value → String
  | .text s => s
  | .number n => toString n
  | .flag b => toString b
  | .millis x => toString x
  | .latency none => "None"
  | .latency (some x) => "Some(" ++ toString x ++ ")"
  | .verdict (.accepted score) => "Accepted \x7b score: " ++ toString score.toInt ++ " \x7d"
  | .verdict (.rejected .latency) => "Rejected(Latency)"
  | .verdict (.rejected .quality) => "Rejected(Quality)"
  | .verdict (.rejected .rate) => "Rejected(Rate)"
  | .cadence .short => "Short"
  | .cadence .long => "Long"

/-- A notice as an entry of the log: its line and its fields. -/
def entryOf (n : Notice) : String :=
  n.fields.foldl (fun entry field => entry ++ " " ++ field.1 ++ "=" ++ shown field.2) n.line

/-- Runs the agent on the reports so far, and carries on with the next report until it ends; the
first `shown` notices are in the log already. -/
partial def converse (disk : Disk) (words : List String) (reports : Array Report) (shown : Nat) :
    IO UInt32 := do
  let trace := run Transcript.toolbox lifetime disk words (.ofReports reports.toList)
  let notices := noticesBefore reports.size trace.events
  for notice in notices.drop shown do
    IO.eprintln (entryOf notice)
  match trace.state.pending with
  | none => conclude trace.value
  | some errand =>
    IO.println errand.line
    (← IO.getStdout).flush
    let line ← (← IO.getStdin).getLine
    let report := if line.isEmpty then .stop else (Report.parse? line).getD .done
    converse disk words (reports.push report) notices.length

end Roaming.Agent

/-- Runs the agent on the words of its command line. -/
def main (words : List String) : IO UInt32 := do
  Roaming.Agent.converse (← Roaming.Agent.loadDisk words) words #[] 0
