/-!
# The command line

The agent takes two options with a value, `--config` and `--profile`, and the flags `--once`,
`--dry-run` and `--help` (or `-h`). A value follows its option as the next word, which must not
start with a hyphen unless it is a lone hyphen, or after an equals sign in the same word. No option
may be repeated, there are no other words, and `--` ends the options.

Words are read from left to right, and the first fault or the first request for help settles the
matter.
-/

namespace Roaming.Agent

/-- What the command line asks for. -/
structure Options where
  /-- The settings document to read. -/
  config : Option String
  /-- The profile to manage instead of the one in the settings. -/
  profile : Option String
  /-- Whether to stop after one iteration. -/
  once : Bool
  /-- Whether to leave pinning and restarting out. -/
  dryRun : Bool
deriving DecidableEq

/-- A fault in the command line. -/
inductive UsageFault where
  /-- A word that is no option, where only options may stand. -/
  | unexpectedWord (word : String)
  | missingValue (name : String)
  | emptyValue (name : String)
  | flagWithValue (name : String)
  | repeated (name : String)
deriving DecidableEq

namespace UsageFault

/-- The text of a fault in the command line. -/
def message : UsageFault → String
  | .unexpectedWord word => "unexpected argument '" ++ word ++ "' found"
  | .missingValue name => "a value is required for '" ++ name ++ "' but none was supplied"
  | .emptyValue name => "a value is required for '" ++ name ++ "' but it is empty"
  | .flagWithValue name => "'" ++ name ++ "' takes no value"
  | .repeated name => "the argument '" ++ name ++ "' cannot be used multiple times"

end UsageFault

/-- What a command line comes to. -/
inductive Request where
  | help
  | run (options : Options)
deriving DecidableEq

namespace Options

/-- The options when no word is given. -/
def none : Options where
  config := .none
  profile := .none
  once := false
  dryRun := false

/-- Sets the settings document, which must have a name. -/
def setConfig (o : Options) (value : String) : Except UsageFault Options :=
  if o.config.isSome then .error (.repeated "--config")
  else if value = "" then .error (.emptyValue "--config")
  else .ok { o with config := some value }

/-- Sets the profile. -/
def setProfile (o : Options) (value : String) : Except UsageFault Options :=
  if o.profile.isSome then .error (.repeated "--profile")
  else .ok { o with profile := some value }

/-- Sets the flag for one iteration. -/
def setOnce (o : Options) : Except UsageFault Options :=
  if o.once then .error (.repeated "--once") else .ok { o with once := true }

/-- Sets the flag for a dry run. -/
def setDryRun (o : Options) : Except UsageFault Options :=
  if o.dryRun then .error (.repeated "--dry-run") else .ok { o with dryRun := true }

/-- The name in a long option and, if there is an equals sign, the value after it. -/
def splitWord (word : String) : String × Option String :=
  let cs := word.toList
  let name := String.ofList (cs.takeWhile (· != '='))
  match cs.dropWhile (· != '=') with
  | [] => (name, .none)
  | _ :: value => (name, some (String.ofList value))

/-- A word that may be the value of the option before it. -/
def isValueWord (word : String) : Bool :=
  word == "-" || word.toList.head? != some '-'

/-- What one word asks for. -/
inductive Word where
  | help
  | ending
  | flag (set : Options → Except UsageFault Options)
  | valued (set : Options → Except UsageFault Options)
  /-- An option whose value is the next word. -/
  | needsValue (name : String) (set : Options → String → Except UsageFault Options)
  | fault (f : UsageFault)

/-- Reads one word where an option may stand. -/
def classify (word : String) : Word :=
  match splitWord word with
  | ("--", .none) => .ending
  | ("--help", .none) => .help
  | ("--once", .none) => .flag setOnce
  | ("--dry-run", .none) => .flag setDryRun
  | ("--config", .none) => .needsValue "--config" setConfig
  | ("--profile", .none) => .needsValue "--profile" setProfile
  | ("--config", some value) => .valued fun o => o.setConfig value
  | ("--profile", some value) => .valued fun o => o.setProfile value
  | ("--help", some _) => .fault (.flagWithValue "--help")
  | ("--once", some _) => .fault (.flagWithValue "--once")
  | ("--dry-run", some _) => .fault (.flagWithValue "--dry-run")
  | _ =>
    match word.toList with
    | '-' :: 'h' :: _ => .help
    | _ => .fault (.unexpectedWord word)

/-- Reads the words after `--`: there must be none. -/
def readRest (o : Options) : List String → Except UsageFault Request
  | [] => .ok (.run o)
  | word :: _ => .error (.unexpectedWord word)

/-- Reads words from left to right on top of the options so far. -/
def readWords (o : Options) : List String → Except UsageFault Request
  | [] => .ok (.run o)
  | word :: words =>
    match classify word with
    | .help => .ok .help
    | .ending => o.readRest words
    | .fault f => .error f
    | .flag set =>
      match set o with
      | .ok o => o.readWords words
      | .error f => .error f
    | .valued set =>
      match set o with
      | .ok o => o.readWords words
      | .error f => .error f
    | .needsValue name set =>
      match words with
      | [] => .error (.missingValue name)
      | value :: words =>
        if isValueWord value then
          match set o value with
          | .ok o => o.readWords words
          | .error f => .error f
        else .error (.missingValue name)

end Options

/-- What the words of a command line come to. -/
def Request.ofWords (words : List String) : Except UsageFault Request :=
  Options.none.readWords words

end Roaming.Agent
