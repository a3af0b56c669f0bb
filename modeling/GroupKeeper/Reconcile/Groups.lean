import GroupKeeper.Reconcile.Program
import GroupKeeper.Roster
import GroupKeeper.Email

/-! Groups as a whole: creating them, keeping their name and description, removing those that are
not wanted. -/

namespace GroupKeeper

/-- How a run deals with a directory. -/
structure Mode where
  /-- Whether changes are made. If not, they are only logged. -/
  confirm : Bool
  /-- Whether a failure says that a group or member does not exist. -/
  isMissing : Failure → Bool

namespace Reconcile

/-- The group to insert or to update. Empty texts say nothing. -/
def wantedGroup (g : GroupSpec) : Group :=
  ⟨"", g.emailId, g.name, g.description⟩

/-- Whether a group differs from what is said about its name or its description. -/
def differs (g : GroupSpec) (current : Group) : Bool :=
  (!g.name.isEmpty && current.name != g.name) ||
    (!g.description.isEmpty && current.description != g.description)

/-- Creates the group if it does not exist, and else updates its name and description. -/
def createOrUpdateGroup (mode : Mode) (g : GroupSpec) : Program (Except Failure Unit) := do
  Program.emit (.entered g.emailId .createOrUpdateGroup)
  match ← Program.ask (.getGroup g.emailId) with
  | .error f =>
    if mode.isMissing f then
      if mode.confirm then
        Program.emit (.begun (.createGroup g.emailId))
        match ← Program.ask (.insertGroup (wantedGroup g)) with
        | .ok created =>
          Program.emit (.finished (.createGroup created.email))
          return .ok ()
        | .error f => return .error (.during ("unable to add new group " ++ Text.quote g.emailId) f)
      else
        Program.emit (.would (.createGroup g.emailId))
        return .ok ()
    else return .error (.during ("unable to fetch group " ++ Text.quote g.emailId) f)
  | .ok current =>
    if differs g current then
      if mode.confirm then
        Program.emit (.begun (.updateGroup g.emailId))
        match ← Program.ask (.updateGroup g.emailId (wantedGroup g)) with
        | .ok updated =>
          Program.emit (.finished (.updateGroup updated.email))
          return .ok ()
        | .error f => return .error (.during ("unable to update group " ++ Text.quote g.emailId) f)
      else
        Program.emit (.would (.updateGroup g.emailId))
        return .ok ()
    else return .ok ()

/-- Removes one group that is not wanted. -/
def removeOrphan (mode : Mode) (g : Group) : Program Failures := do
  if mode.confirm then
    Program.emit (.begun (.removeGroup g.email))
    match ← Program.ask (.deleteGroup g.email) with
    | .ok () =>
      Program.emit (.finished (.removeGroup g.email))
      return .none
    | .error f => return .of (.during ("unable to remove group " ++ g.email) f)
  else
    Program.emit (.would (.removeGroup g.email))
    return .none

/-- The groups with no equivalent address among the wanted ones. -/
def orphans (wanted : List GroupSpec) (current : List Group) : List Group :=
  current.filter fun g => !wanted.any (Email.equals ·.emailId g.email)

/-- Does something for each item in turn and gathers the failures. -/
def gather {α : Type} (act : α → Program Failures) : List α → Program Failures
  | [] => return .none
  | x :: xs => do
    let first ← act x
    let rest ← gather act xs
    return first ++ rest

/-- Removes every group of the directory that has no equivalent among the wanted ones. -/
def deleteOrphans (mode : Mode) (wanted : List GroupSpec) : Program Failures := do
  match ← Program.ask .listGroups with
  | .error f => return .of (.during "unable to list groups" f)
  | .ok current => gather (removeOrphan mode) (orphans wanted current)

end Reconcile

end GroupKeeper
