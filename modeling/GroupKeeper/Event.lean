import GroupKeeper.Role
import GroupKeeper.Settings
import GroupKeeper.Text.Quoted

/-! The log of a run. An event says what happened; its level, message and fields are functions of
it. Each change to the directory shows up as announced, begun and finished, or, when nothing may be
changed, as something that would be done. -/

namespace GroupKeeper

/-- How important an event is. -/
inductive Level where
  | error
  | warn
  | info
  | debug
  | trace
  deriving Repr, DecidableEq

namespace Level

/-- The place of a level, the most important first. -/
def rank : Level → Nat
  | error => 1
  | warn => 2
  | info => 3
  | debug => 4
  | trace => 5

/-- The name of a level. -/
def name : Level → String
  | error => "ERROR"
  | warn => "WARN"
  | info => "INFO"
  | debug => "DEBUG"
  | trace => "TRACE"

end Level

/-- The value of an event's field. -/
inductive FieldValue where
  | text (s : String)
  | count (n : Nat)
  deriving Repr, DecidableEq

/-- A change to the directory. -/
inductive Change where
  | createGroup (group : String)
  | updateGroup (group : String)
  | updateSettings (group : String) (current desired : Settings)
  | updateMember (group email : String) (old new : Role)
  | addMember (group email : String) (role : Role)
  | removeMember (group email : String) (role : Role)
  | removeGroup (group : String)
  deriving DecidableEq

/-- A step of a group's reconciliation. -/
inductive Step where
  | createOrUpdateGroup
  | updateSettings
  | addOrUpdateMembers (role : Role) (emails : List String)
  | removeOwnersOrManagers
  | removeMembers
  deriving Repr, DecidableEq

/-- Something that is left undone because the group does not exist. -/
inductive Activity where
  | updatingSettings
  | addingMembers
  | removingMembers
  deriving Repr, DecidableEq

/-- An event of a run. -/
inductive Event where
  /-- Groups are about to be reconciled, so many at a time. -/
  | started (groups workers : Nat)
  /-- A step of a group's reconciliation begins. -/
  | entered (group : String) (step : Step)
  /-- A change that is not made because the run only looks. -/
  | would (change : Change)
  /-- A change is about to be made. -/
  | begun (change : Change)
  /-- A change was made. -/
  | finished (change : Change)
  /-- Something is left undone because the group does not exist. -/
  | groupMissing (group : String) (activity : Activity)
  /-- The settings of a group are as wanted. -/
  | settingsUpToDate (group : String)
  /-- A group is passed over because an equivalent address came before. -/
  | duplicateSkipped (group : String)
  /-- A settings key that names nothing is not applied. -/
  | settingIgnored (group key : String)
  /-- A settings key that names nothing stands in a roster. -/
  | settingUnrecognized (group key : String)
  /-- The directory holds no group. -/
  | noGroups
  deriving DecidableEq

namespace Change

/-- The group that is changed. -/
def group : Change → String
  | createGroup g | updateGroup g | updateSettings g _ _ | updateMember g _ _ _ | addMember g _ _
  | removeMember g _ _ | removeGroup g => g

/-- The message of a change that would be made. -/
def wouldMessage : Change → String
  | createGroup _ => "dry-run: would create group"
  | updateGroup _ => "dry-run: would update group name/description"
  | updateSettings .. => "dry-run: would update group settings"
  | updateMember .. => "dry-run: would update member"
  | addMember .. => "dry-run: would add member"
  | removeMember .. => "dry-run: would remove member"
  | removeGroup _ => "dry-run: would remove group"

/-- The message of a change that is about to be made. -/
def begunMessage : Change → String
  | createGroup _ => "Creating group"
  | updateGroup _ => "Updating group"
  | updateSettings .. => "Updating group settings"
  | updateMember .. => "Updating member"
  | addMember .. => "Adding member"
  | removeMember .. => "Removing member"
  | removeGroup _ => "Removing group"

/-- The message of a change that was made. -/
def finishedMessage : Change → String
  | createGroup _ => "Created group"
  | updateGroup _ => "Updated group"
  | updateSettings .. => "Updated group settings"
  | updateMember .. => "Updated member"
  | addMember .. => "Added member"
  | removeMember .. => "Removed member"
  | removeGroup _ => "Removed group"

/-- The fields of a change that is announced, the group aside. -/
def plannedFields : Change → List (String × FieldValue)
  | updateSettings _ current desired => [
    ("current", .text (Text.quoteTable current.managedTable.entries)),
    ("desired", .text (Text.quoteTable desired.managedTable.entries))]
  | updateMember _ email old new => [
    ("member", .text email), ("from", .text old.name), ("to", .text new.name)]
  | addMember _ email role | removeMember _ email role => [
    ("member", .text email), ("role", .text role.name)]
  | createGroup _ | updateGroup _ | removeGroup _ => []

/-- The fields of a change that was made, the group aside. -/
def finishedFields : Change → List (String × FieldValue)
  | updateMember _ email _ role | addMember _ email role | removeMember _ email role => [
    ("member", .text email), ("role", .text role.name)]
  | updateSettings .. | createGroup _ | updateGroup _ | removeGroup _ => []

end Change

/-- The message of a step. -/
def Step.message : Step → String
  | createOrUpdateGroup => "create_or_update_group"
  | updateSettings => "update_group_settings"
  | addOrUpdateMembers .. => "add_or_update_members"
  | removeOwnersOrManagers => "remove_owners_or_managers"
  | removeMembers => "remove_members"

/-- The fields of a step, the group aside. -/
def Step.fields : Step → List (String × FieldValue)
  | addOrUpdateMembers role emails => [
    ("role", .text role.name), ("emails", .text (Text.quoteList emails))]
  | createOrUpdateGroup | updateSettings | removeOwnersOrManagers | removeMembers => []

/-- What an activity is called in messages. -/
def Activity.phrase : Activity → String
  | updatingSettings => "updating group settings"
  | addingMembers => "adding members"
  | removingMembers => "removing members"

namespace Event

/-- How important an event is. -/
def level : Event → Level
  | started .. | entered .. | settingsUpToDate _ => .debug
  | would _ | begun _ | finished _ | groupMissing .. | noGroups => .info
  | duplicateSkipped _ | settingIgnored .. | settingUnrecognized .. => .warn

/-- The message of an event. -/
def message : Event → String
  | started .. => "Reconciling groups"
  | entered _ step => step.message
  | would c => c.wouldMessage
  | begun c => c.begunMessage
  | finished c => c.finishedMessage
  | groupMissing _ a => "Skipping " ++ a.phrase ++ ": group has not yet been created"
  | settingsUpToDate _ => "Group settings are up to date"
  | duplicateSkipped _ => "Skipping group listed more than once"
  | settingIgnored .. => "Ignoring unrecognized setting"
  | settingUnrecognized .. => "Unrecognized setting will be ignored"
  | noGroups => "No groups found"

/-- The fields of an event. -/
def fields : Event → List (String × FieldValue)
  | started groups workers => [("groups", .count groups), ("workers", .count workers)]
  | entered group step => ("group", .text group) :: step.fields
  | would c | begun c => ("group", .text c.group) :: c.plannedFields
  | finished c => ("group", .text c.group) :: c.finishedFields
  | groupMissing group _ | settingsUpToDate group | duplicateSkipped group =>
    [("group", .text group)]
  | settingIgnored group key | settingUnrecognized group key =>
    [("group", .text group), ("key", .text key)]
  | noGroups => []

end Event

end GroupKeeper
