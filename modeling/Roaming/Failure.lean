import Roaming.Text.Quoted

/-!
# What can go wrong

An iteration of the monitor fails for one of four causes: no association within the roaming network,
a tool that could not be started, a tool that ran and failed, and settings that make no sense. The
wording of each cause is in one function, `Failure.message`. Only bad settings are final; every
other cause may be gone at the next iteration.
-/

namespace Roaming

/-- Why the operating system refused a request. -/
inductive SystemError where
  /-- An error number of the operating system. -/
  | number (n : Nat)
  /-- Any other cause, in words. -/
  | described (text : String)
deriving DecidableEq

namespace SystemError

/-- The name of an error number. -/
def nameOf : Nat → Option String
  | 1 => some "Operation not permitted"
  | 2 => some "No such file or directory"
  | 3 => some "No such process"
  | 4 => some "Interrupted system call"
  | 5 => some "Input/output error"
  | 6 => some "No such device or address"
  | 7 => some "Argument list too long"
  | 8 => some "Exec format error"
  | 9 => some "Bad file descriptor"
  | 10 => some "No child processes"
  | 11 => some "Resource temporarily unavailable"
  | 12 => some "Cannot allocate memory"
  | 13 => some "Permission denied"
  | 14 => some "Bad address"
  | 16 => some "Device or resource busy"
  | 17 => some "File exists"
  | 19 => some "No such device"
  | 20 => some "Not a directory"
  | 21 => some "Is a directory"
  | 22 => some "Invalid argument"
  | 23 => some "Too many open files in system"
  | 24 => some "Too many open files"
  | 26 => some "Text file busy"
  | 27 => some "File too large"
  | 28 => some "No space left on device"
  | 30 => some "Read-only file system"
  | 32 => some "Broken pipe"
  | 36 => some "File name too long"
  | 40 => some "Too many levels of symbolic links"
  | 110 => some "Connection timed out"
  | 111 => some "Connection refused"
  | _ => none

/-- The text of a system error: its name and its number. -/
def message : SystemError → String
  | .number n =>
    (nameOf n).getD ("Unknown error " ++ toString n) ++ " (os error " ++ toString n ++ ")"
  | .described text => text

/-- A file or program that does not exist. -/
def notFound : SystemError := .number 2

/-- A file or program that may not be used. -/
def denied : SystemError := .number 13

/-- A word that ends too early, since programs are handed words up to their first null character. -/
def nullCharacter : SystemError := .described "nul byte found in provided data"

end SystemError

/-- How a program ended. -/
inductive ExitStatus where
  /-- It ended by itself with an exit code. -/
  | code (n : Nat)
  /-- A signal killed it. -/
  | signal (n : Nat)
deriving DecidableEq

namespace ExitStatus

/-- The name of a signal. -/
def signalName : Nat → Option String
  | 1 => some "SIGHUP"
  | 2 => some "SIGINT"
  | 3 => some "SIGQUIT"
  | 4 => some "SIGILL"
  | 5 => some "SIGTRAP"
  | 6 => some "SIGABRT"
  | 7 => some "SIGBUS"
  | 8 => some "SIGFPE"
  | 9 => some "SIGKILL"
  | 10 => some "SIGUSR1"
  | 11 => some "SIGSEGV"
  | 12 => some "SIGUSR2"
  | 13 => some "SIGPIPE"
  | 14 => some "SIGALRM"
  | 15 => some "SIGTERM"
  | 16 => some "SIGSTKFLT"
  | 17 => some "SIGCHLD"
  | 18 => some "SIGCONT"
  | 19 => some "SIGSTOP"
  | 20 => some "SIGTSTP"
  | 21 => some "SIGTTIN"
  | 22 => some "SIGTTOU"
  | 23 => some "SIGURG"
  | 24 => some "SIGXCPU"
  | 25 => some "SIGXFSZ"
  | 26 => some "SIGVTALRM"
  | 27 => some "SIGPROF"
  | 28 => some "SIGWINCH"
  | 29 => some "SIGIO"
  | 30 => some "SIGPWR"
  | 31 => some "SIGSYS"
  | _ => none

/-- A program succeeds by ending with exit code zero. -/
def isSuccess : ExitStatus → Bool
  | .code n => n == 0
  | .signal _ => false

theorem isSuccess_iff {status : ExitStatus} : status.isSuccess = true ↔ status = .code 0 := by
  cases status <;> simp [isSuccess]

/-- The text of an exit status. -/
def message : ExitStatus → String
  | .code n => "exit status: " ++ toString n
  | .signal n => "signal: " ++ toString n ++ ((signalName n).map fun s => " (" ++ s ++ ")").getD ""

end ExitStatus

/-- Why settings are refused. -/
inductive SettingsFault where
  /-- The document is not TOML, or one of its values has the wrong type. -/
  | unreadable
  /-- A version other than the current one. -/
  | unsupportedVersion (version : UInt32)
  /-- A profile name of blanks only. -/
  | emptyProfile
  /-- A margin below zero. -/
  | negativePenalty (penalty : Int32)
  /-- Probes of no echo at all. -/
  | noPings
  /-- A pause of no length between iterations. -/
  | zeroInterval
  /-- Any other cause, in words. -/
  | described (text : String)
deriving DecidableEq

namespace SettingsFault

/-- The text of a settings fault. -/
def message : SettingsFault → String
  | .unreadable => "invalid config TOML"
  | .unsupportedVersion v => "unsupported config version " ++ toString v.toNat
  | .emptyProfile => "profile must not be empty"
  | .negativePenalty p => "quality_penalty must be non-negative, got " ++ toString p.toInt
  | .noPings => "ping_count must be at least 1"
  | .zeroInterval => "polling intervals must be at least one second"
  | .described text => text

end SettingsFault

/-- Why an operation of the monitor failed. -/
inductive Failure where
  /-- No access point of the roaming network is in use. -/
  | notConnected (ssid : Option String)
  /-- A tool could not be started. -/
  | notStarted (program : String) (cause : SystemError)
  /-- A tool ran and failed. -/
  | toolFailed (program : String) (status : ExitStatus) (stderr : String)
  /-- The settings are refused. -/
  | badSettings (fault : SettingsFault)
deriving DecidableEq

namespace Failure

/-- The text of a failure. -/
def message : Failure → String
  | .notConnected ssid => "no active connection for ssid " ++ Text.quotedOption ssid
  | .notStarted program cause => "failed to run " ++ program ++ ": " ++ cause.message
  | .toolFailed program status stderr =>
    program ++ " exited with " ++ status.message ++ ": " ++ stderr
  | .badSettings fault => "invalid config: " ++ fault.message

/-- A transient failure may be gone at the next iteration; refused settings never are. -/
def isTransient : Failure → Bool
  | .badSettings _ => false
  | _ => true

/-- The texts of a failure and of the cause behind it, outermost first. -/
def chain : Failure → List String
  | f@(.notStarted _ cause) => [f.message, cause.message]
  | f => [f.message]

end Failure

end Roaming
