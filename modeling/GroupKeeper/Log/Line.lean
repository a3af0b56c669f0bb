import GroupKeeper.Event
import GroupKeeper.Data.Basic

/-! Lines of the log. A line is an event with the part of the program that it comes from; filters
choose lines by that part and by how important they are. -/

namespace GroupKeeper

/-- The part of the program that a line comes from. -/
inductive LogSource where
  | commandLine
  | validation
  | snapshot
  | schedule
  | directory
  | policies
  deriving Repr, DecidableEq

/-- The name of a part of the program in the log and in filters. -/
def LogSource.name : LogSource → String
  | commandLine => "groups_reconciler_runtime::args"
  | validation => "groups_reconciler_runtime::validation"
  | snapshot => "groups_reconciler_runtime::print"
  | schedule => "groups_reconciler_reconcile::reconciler"
  | directory => "groups_reconciler_reconcile::admin"
  | policies => "groups_reconciler_reconcile::settings"

/-- The part of the program that makes a change. -/
def Change.source : Change → LogSource
  | .updateSettings .. => .policies
  | .createGroup _ | .updateGroup _ | .updateMember .. | .addMember .. | .removeMember ..
  | .removeGroup _ => .directory

/-- The part of the program that takes a step. -/
def Step.source : Step → LogSource
  | .updateSettings => .policies
  | .createOrUpdateGroup | .addOrUpdateMembers .. | .removeOwnersOrManagers | .removeMembers =>
    .directory

/-- The part of the program that an event comes from. -/
def Event.source : Event → LogSource
  | .started .. | .duplicateSkipped _ => .schedule
  | .entered _ step => step.source
  | .would c | .begun c | .finished c => c.source
  | .groupMissing _ .updatingSettings | .settingsUpToDate _ | .settingIgnored .. => .policies
  | .groupMissing _ .addingMembers | .groupMissing _ .removingMembers => .directory
  | .settingUnrecognized .. => .validation
  | .noGroups => .snapshot

/-- A line of the log. -/
structure LogLine where
  source : LogSource
  level : Level
  message : String
  fields : List (String × FieldValue)
  deriving Repr, DecidableEq

namespace LogLine

/-- The line of an event. -/
def ofEvent (e : Event) : LogLine := ⟨e.source, e.level, e.message, e.fields⟩

/-- A field's value as text. -/
def fieldText : FieldValue → String
  | .text s => s
  | .count n => toString n

/-- A line as text: the message, then each field with its name. -/
def text (l : LogLine) : String :=
  l.message ++ String.join (l.fields.map fun (name, value) => " " ++ name ++ "=" ++ fieldText value)

/-- A field's value as data. -/
def fieldData : FieldValue → Data
  | .text s => .text s
  | .count n => .number (.whole n)

/-- A line as data. The message is one of the fields. -/
def toData (l : LogLine) : Data :=
  .record [
    ("level", .text l.level.name),
    ("fields", .record (("message", .text l.message)
      :: l.fields.map fun (name, value) => (name, fieldData value))),
    ("target", .text l.source.name)]

end LogLine

/-- How the log is written. -/
inductive LogFormat where
  /-- One line of text each. -/
  | plain
  /-- One JSON record each. -/
  | json
  deriving Repr, DecidableEq

/-- The format with a given name. -/
def LogFormat.ofName? : String → Option LogFormat
  | "plain" => some plain
  | "json" => some json
  | _ => none

end GroupKeeper
