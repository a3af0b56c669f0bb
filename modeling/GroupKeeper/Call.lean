import GroupKeeper.Failure
import GroupKeeper.Group

/-! The calls that reach a directory of groups and its settings service. Groups are addressed by
their e-mail address, members by the id that the directory gave them. -/

namespace GroupKeeper

/-- A call on the directory or on the settings service. -/
inductive Call where
  | getGroup (key : String)
  | listGroups
  | insertGroup (group : Group)
  | updateGroup (key : String) (group : Group)
  | deleteGroup (key : String)
  | listMembers (key : String)
  | insertMember (key : String) (member : Member)
  | updateMember (key id : String) (member : Member)
  | deleteMember (key id : String)
  | getSettings (key : String)
  | patchSettings (key : String) (settings : Settings)
  deriving DecidableEq

namespace Call

/-- What a successful call gives back. -/
@[reducible]
def Reply : Call → Type
  | getGroup _ | insertGroup _ | updateGroup .. => Group
  | listGroups => List Group
  | listMembers _ => List Member
  | insertMember .. | updateMember .. => Member
  | deleteGroup _ | deleteMember .. => Unit
  | getSettings _ | patchSettings .. => Settings

/-- Whether a call is meant to change something. -/
def isMutating : Call → Bool
  | getGroup _ | listGroups | listMembers _ | getSettings _ => false
  | insertGroup _ | updateGroup .. | deleteGroup _ | insertMember .. | updateMember ..
  | deleteMember .. | patchSettings .. => true

/-- Whether a call looks one group up. -/
def isLookup : Call → Bool
  | getGroup _ => true
  | _ => false

end Call

/-- A client answers calls, each answer depending on a state that the call may change. -/
abbrev Client (σ : Type) := (c : Call) → σ → Except Failure c.Reply × σ

end GroupKeeper
