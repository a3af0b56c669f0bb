import GroupKeeper.Reconcile.Members

/-! The directory written down as a roster. -/

namespace GroupKeeper.Snapshot

/-- The roster entry of a group with given settings and members. -/
def describe (g : Group) (settings : Settings) (members : List Member) : GroupSpec :=
  let withRole (r : Role) := (members.filter (·.role = r)).map (·.email)
  { emailId := g.email
    name := g.name
    description := g.description
    settings := settings.managedTable
    owners := withRole .owner
    managers := withRole .manager
    members := withRole .member }

/-- Reads the settings and the members of each group. The first failure ends it. -/
def describeAll : List Group → Program (Except Failure (List GroupSpec))
  | [] => return .ok []
  | g :: gs => do
    match ← Program.ask (.getSettings g.email) with
    | .error f =>
      return .error (.during ("unable to retrieve group settings for " ++ g.email) f)
    | .ok settings =>
      match ← Program.ask (.listMembers g.email) with
      | .error f => return .error (.during ("unable to retrieve members in group " ++ g.email) f)
      | .ok members =>
        match ← describeAll gs with
        | .error f => return .error f
        | .ok rest => return .ok (describe g settings members :: rest)

/-- Reads every group of the directory, with its managed settings and its members, as a roster. -/
def take : Program (Except Failure Roster) := do
  match ← Program.ask .listGroups with
  | .error f => return .error (.during "unable to list groups" f)
  | .ok groups =>
    if groups.isEmpty then
      Program.emit .noGroups
    match ← describeAll groups with
    | .error f => return .error f
    | .ok specs => return .ok ⟨specs⟩

end GroupKeeper.Snapshot
