import Roaming.Agent

/-!
# Transcripts

The agent does not start programs itself: it hands each command, and each pause, to the supervisor
that started it, and reads a report. A *transcript* is the list of reports so far. Since the agent
is a function of what it is told, its run on a transcript is determined up to the first errand
without a report; that errand is what has to be done next, and what was noted before it is what the
log holds by then.

An errand is one line of quoted words. A report is one line of words: `code` or `signal` with a
number and the two outputs in hexadecimal (a hyphen stands for an empty one), `refused` with an
error number, `done` after a pause, or `stop` when the agent is no longer wanted.
-/

namespace Roaming.Agent

/-- What the agent wants done. -/
inductive Errand where
  | execute (c : Command)
  | pause (length : Span)
deriving DecidableEq

/-- An errand as one line. -/
def Errand.line : Errand → String
  | .execute c => " ".intercalate ("execute" :: c.words.map Text.quoted)
  | .pause length => "pause " ++ toString length.wholeSeconds

/-- What became of an errand. -/
inductive Report where
  | ended (o : Output)
  /-- The program could not be started. -/
  | refused (cause : SystemError)
  | done
  /-- The agent is no longer wanted. -/
  | stop

namespace Report

/-- The octets behind hexadecimal digits. -/
def octets? : List Char → Option (List UInt8)
  | [] => some []
  | ['-'] => some []
  | a :: b :: cs => do
    let high ← Toml.Quoted.hexValue? a
    let low ← Toml.Quoted.hexValue? b
    let rest ← octets? cs
    some (UInt8.ofNat (16 * high + low) :: rest)
  | [_] => none

/-- The number behind a numeral. -/
def number? (cs : List Char) : Option Nat :=
  if Text.isNumeral cs then some (Text.numeralValue cs) else none

/-- The report in a line. -/
def parse? (line : String) : Option Report :=
  match Text.words line.toList with
  | [kind, number, out, err] => do
    let n ← number? number
    let stdout ← octets? out
    let stderr ← octets? err
    if kind = "code".toList then some (.ended { status := .code n, stdout, stderr })
    else if kind = "signal".toList then some (.ended { status := .signal n, stdout, stderr })
    else none
  | [kind, number] => do
    let n ← number? number
    if kind = "refused".toList then some (.refused (.number n)) else none
  | [kind] =>
    if kind = "done".toList then some .done
    else if kind = "stop".toList then some .stop
    else none
  | _ => none

end Report

/-- The reports still to come, the first errand without one, and whether the agent is still wanted.
-/
structure Transcript where
  /-- The reports still to come. -/
  reports : List Report
  /-- The first errand without a report. -/
  pending : Option Errand
  /-- Whether the agent is still wanted. -/
  wanted : Bool

namespace Transcript

/-- A transcript before its first report is used. -/
def ofReports (reports : List Report) : Transcript :=
  ⟨reports, none, true⟩

/-- A transcript that has come to an errand without a report, which ends the run. -/
def stopAt (t : Transcript) (e : Errand) : Transcript :=
  { t with pending := t.pending <|> some e, wanted := false }

/-- Runs a command by its report. -/
def execute (c : Command) (t : Transcript) : Except SystemError Output × Transcript :=
  match t.reports with
  | .ended o :: rest => (.ok o, { t with reports := rest })
  | .refused cause :: rest => (.error cause, { t with reports := rest })
  | .done :: rest => (.error .notFound, { t with reports := rest })
  | .stop :: rest => (.error .notFound, { t with reports := rest, wanted := false })
  | [] => (.error .notFound, t.stopAt (.execute c))

/-- Lets time pass by its report. -/
def sleep (length : Span) (t : Transcript) : Transcript :=
  match t.reports with
  | .stop :: rest => { t with reports := rest, wanted := false }
  | _ :: rest => { t with reports := rest }
  | [] => t.stopAt (.pause length)

/-- The toolbox that answers from a transcript. -/
def toolbox : Toolbox Transcript where
  execute := execute
  sleep := sleep
  isRunning := wanted

end Transcript

/-- The notices before the errand with a number, counted from zero. -/
def noticesBefore : Nat → List Event → List Notice
  | _, [] => []
  | n, .noted notice :: events => notice :: noticesBefore n events
  | 0, _ :: _ => []
  | n + 1, _ :: events => noticesBefore n events

end Roaming.Agent
