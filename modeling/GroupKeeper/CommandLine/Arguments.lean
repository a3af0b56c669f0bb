import GroupKeeper.Log.Filter

/-! The arguments of the command line: options, one command, and the options of that command. An
option is given once, on the command line or else by a variable of the environment. -/

namespace GroupKeeper.CommandLine

/-- What the program is asked to do. -/
inductive Command where
  /-- Check the roster without asking the directory. -/
  | validate
  /-- Log the changes that would be made. -/
  | plan
  /-- Make the changes. -/
  | apply
  /-- Print the directory as a roster. -/
  | print
  deriving Repr, DecidableEq

/-- An option. Each takes a value. -/
inductive Opt where
  /-- Which lines of the log are written. -/
  | logLevel
  /-- How the log is written. -/
  | logFormat
  /-- The file with the configuration. -/
  | config
  /-- Takes the place of the configured path of the roster. -/
  | groupsPath
  /-- Takes the place of the configured number of groups reconciled at a time. -/
  | workerCount
  /-- Takes the place of the configured token. -/
  | accessToken
  deriving Repr, DecidableEq

namespace Command

/-- The commands in the order in which they are listed. -/
def all : List Command := [validate, plan, apply, print]

/-- The name of a command. -/
def name : Command → String
  | validate => "validate"
  | plan => "plan"
  | apply => "apply"
  | print => "print"

/-- The command with a given name. -/
def ofName? (s : String) : Option Command := all.find? (·.name == s)

/-- The options that follow a command. -/
def options : Command → List Opt
  | validate => []
  | plan | apply | print => [.accessToken]

end Command

namespace Opt

/-- The options that come before the command. -/
def general : List Opt := [logLevel, logFormat, config, groupsPath, workerCount]

/-- All options. -/
def all : List Opt := general ++ [accessToken]

/-- The name of an option, without the dashes. -/
def name : Opt → String
  | logLevel => "log-level"
  | logFormat => "log-format"
  | config => "config"
  | groupsPath => "groups-path"
  | workerCount => "worker-count"
  | accessToken => "access-token"

/-- The variable of the environment that an option is taken from if it is not given. -/
def environmentName : Opt → Option String
  | logLevel => some "GROUPS_RECONCILER_LOG"
  | accessToken => some "GROUPS_ACCESS_TOKEN"
  | logFormat | config | groupsPath | workerCount => none

end Opt

/-- Why the arguments ask for nothing that can be run. -/
inductive Usage where
  /-- Help is asked for. -/
  | help
  /-- The version is asked for. -/
  | version
  /-- Nothing is said at all. -/
  | silence
  /-- Options are given but no command. -/
  | missingCommand
  | unknownCommand (name : String)
  | unknownArgument (argument : String)
  /-- An option that stands alone has a value. -/
  | unneededValue (argument : String)
  | missingValue (option : Opt)
  | badValue (option : Opt) (value : String)
  /-- An option is given again. -/
  | repeated (option : Opt)
  deriving Repr, DecidableEq

/-- The code that the program ends with. Help and the version that are asked for are no failure. -/
def Usage.exitCode : Usage → Nat
  | help | version => 0
  | silence | missingCommand | unknownCommand _ | unknownArgument _ | unneededValue _
  | missingValue _ | badValue .. | repeated _ => 2

/-- How an option is written. -/
def Opt.text (o : Opt) : String := "--" ++ o.name

/-- What help says. -/
def helpText : String :=
  let option (o : Opt) := "      " ++ o.text ++ " <VALUE>\n"
  "Reconciles groups with a declarative configuration\n\nCommands:\n"
    ++ String.join (Command.all.map fun c =>
      "  " ++ c.name ++ "\n" ++ String.join (c.options.map option))
    ++ "  help\n\nOptions:\n" ++ String.join (Opt.general.map option)
    ++ "  -h, --help\n  -V, --version\n"

/-- The name and the version of the program. -/
def versionText : String := "groups-reconciler 0.1.0\n"

/-- What is said about arguments that ask for nothing that can be run. -/
def Usage.message : Usage → String
  | help | silence => helpText
  | version => versionText
  | missingCommand => "error: a command is required\n"
  | unknownCommand name => "error: unrecognized command " ++ Text.quote name ++ "\n"
  | unknownArgument argument => "error: unexpected argument " ++ Text.quote argument ++ "\n"
  | unneededValue argument => "error: unexpected value for " ++ argument ++ "\n"
  | missingValue o => "error: a value is required for " ++ o.text ++ "\n"
  | badValue o value => "error: invalid value " ++ Text.quote value ++ " for " ++ o.text ++ "\n"
  | repeated o => "error: " ++ o.text ++ " cannot be used multiple times\n"

/-- The values of options. -/
structure Values where
  logLevel : Option LogFilter
  logFormat : Option LogFormat
  config : Option String
  groupsPath : Option String
  workerCount : Option Nat
  accessToken : Option String
  deriving DecidableEq

namespace Values

/-- No values. -/
def none : Values := ⟨.none, .none, .none, .none, .none, .none⟩

/-- Whether an option has a value. -/
def has (v : Values) : Opt → Bool
  | .logLevel => v.logLevel.isSome
  | .logFormat => v.logFormat.isSome
  | .config => v.config.isSome
  | .groupsPath => v.groupsPath.isSome
  | .workerCount => v.workerCount.isSome
  | .accessToken => v.accessToken.isSome

/-- The path that a value stands for. It must not be empty. -/
def path (o : Opt) (value : String) : Except Usage String :=
  if value.isEmpty then .error (.missingValue o) else .ok value

/-- What a value stands for, if it stands for anything. -/
def understood {α : Type} (o : Opt) (value : String) : Option α → Except Usage α
  | some a => .ok a
  | .none => .error (.badValue o value)

/-- Sets the value of an option. -/
def put (v : Values) (o : Opt) (value : String) : Except Usage Values :=
  match o with
  | .logLevel => do
    return { v with logLevel := some (← understood o value (LogFilter.ofText? value)) }
  | .logFormat => do
    return { v with logFormat := some (← understood o value (LogFormat.ofName? value)) }
  | .config => do return { v with config := some (← path o value) }
  | .groupsPath => do return { v with groupsPath := some (← path o value) }
  | .workerCount => do
    return { v with workerCount := some (← understood o value (Text.count? value)) }
  | .accessToken => .ok { v with accessToken := some value }

/-- Sets the value of an option that is given for the first time. -/
def putOnce (v : Values) (o : Opt) (value : String) : Except Usage Values :=
  if v.has o then .error (.repeated o) else v.put o value

end Values

/-- What the arguments ask for. -/
structure Invocation where
  logFilter : LogFilter
  logFormat : LogFormat
  config : String
  groupsPath : Option String
  workerCount : Option Nat
  command : Command
  accessToken : Option String
  deriving DecidableEq

/-- The log is written from warnings upwards, and from information upwards for this program's own
parts, if nothing else is said. -/
def defaultFilter : LogFilter :=
  ⟨[⟨some "groups_reconciler", none, Level.info.rank⟩, ⟨none, none, Level.warn.rank⟩]⟩

/-- The file with the configuration if nothing else is said. -/
def defaultConfig : String := "config.yaml"

/-- What the values of the options before and after a command ask for. -/
def Invocation.ofValues (general : Values) (command : Command) (special : Values) :
    Invocation where
  logFilter := general.logLevel.getD defaultFilter
  logFormat := general.logFormat.getD .plain
  config := general.config.getD defaultConfig
  groupsPath := general.groupsPath
  workerCount := general.workerCount
  command
  accessToken := special.accessToken

end GroupKeeper.CommandLine
