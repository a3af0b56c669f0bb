import GroupKeeper.CommandLine.Reader
import GroupKeeper.Config
import GroupKeeper.Snapshot
import GroupKeeper.Validation
import GroupKeeper.Yaml.Print

/-! What the commands do. A run sees the files and the network; it leaves lines of the log and ends
with a text to be printed or with a failure. -/

namespace GroupKeeper.CommandLine

/-- A run in progress. -/
abbrev Run := ExceptT Failure (StateM (List LogLine))

namespace Run

/-- Adds a line to the log. -/
def say (level : Level) (message : String) (fields : List (String × FieldValue)) : Run Unit :=
  modify (· ++ [⟨.commandLine, level, message, fields⟩])

/-- Adds the lines of events to the log. -/
def sayEvents (events : List Event) : Run Unit :=
  modify (· ++ events.map .ofEvent)

/-- Reports failures one by one and then fails. -/
def report (what : String) (fs : Failures) : Run Unit := do
  if !fs.isEmpty then
    for f in fs.toList do
      say .error f.message []
    throw (.ofMessage (what ++ " failed with " ++ toString fs.length ++ " error(s)"))

/-- How many groups there are, as a field of a line. -/
def groupCount (roster : Roster) : String × FieldValue := ("groups", .count roster.groups.length)

/-- Checks a roster. -/
def check (roster : Roster) : Run Unit := do
  sayEvents (Validation.warnings roster)
  report "validation" (match Validation.validate roster with
    | .ok () => .none
    | .error fs => fs)

end Run

open Run

namespace Invocation

/-- The configuration, with what the options say in its place. -/
def loadConfig (i : Invocation) (files : Files) : Except Failure Config := do
  let c ← Config.load files i.config
  return { c with
    groupsPath := i.groupsPath.getD c.groupsPath
    workerCount := i.workerCount.getD c.workerCount }

/-- The services, for which a token is needed. -/
def service (i : Invocation) (files : Files) (c : Config) : Except Failure Rest.Service :=
  match i.accessToken with
  | some token => .ok (.standard token c.customer)
  | none => do match ← c.readToken files with
    | some token => return .standard token c.customer
    | none =>
      throw (.ofMessage "an access token is required: set --access-token or token-file")

/-- Reconciles the directory with a roster. -/
def reconcile (i : Invocation) (files : Files) (network : Rest.Network) (confirm : Bool)
    (c : Config) (roster : Roster) : Run String := do
  let service ← i.service files c
  say .info "Reconciling groups" [groupCount roster]
  let program :=
    Reconcile.reconcileGroups ⟨confirm, Rest.Service.isMissing⟩ c.workerCount roster.groups
  let out := program.run service.client network
  sayEvents out.events
  report "reconciliation" out.value
  say .info "Reconciliation complete" []
  return ""

/-- Prints the directory as a roster. -/
def print (i : Invocation) (files : Files) (network : Rest.Network) (c : Config) : Run String := do
  let service ← i.service files c
  let out := Snapshot.take.run service.client network
  sayEvents out.events
  return Yaml.print (← out.value).toData

/-- Does what is asked for. -/
def run (i : Invocation) (files : Files) (network : Rest.Network) : Run String := do
  let c ← i.loadConfig files
  match i.command with
  | .validate =>
    let roster ← Roster.load files c.groupsPath
    check roster
    say .info "Groups configuration is valid" [groupCount roster]
    return ""
  | .plan =>
    let roster ← Roster.load files c.groupsPath
    i.reconcile files network false c roster
  | .apply =>
    let roster ← Roster.load files c.groupsPath
    check roster
    i.reconcile files network true c roster
  | .print => i.print files network c

end Invocation

/-- What came of a run. -/
structure Outcome where
  /-- The lines of the log that the filter lets through. -/
  log : List LogLine
  /-- The text to be printed. -/
  result : Except Failure String

/-- The code that the program ends with. -/
def Outcome.exitCode (o : Outcome) : Nat :=
  match o.result with
  | .ok _ => 0
  | .error _ => 1

/-- Runs what is asked for. -/
def Invocation.outcome (i : Invocation) (files : Files) (network : Rest.Network) : Outcome :=
  let (result, log) := (i.run files network).run []
  ⟨log.filter i.logFilter.allows, result⟩

end GroupKeeper.CommandLine
