import GroupKeeper.Reconcile.Groups

/-! The members of a group: adding those that are listed, giving them the listed role, removing
those that are not listed. -/

namespace GroupKeeper.Reconcile

/-- Lists the members of a group. Gives no list where the group does not exist, which is so after
its creation was only logged. -/
def listMembers (mode : Mode) (g : GroupSpec) (activity : Activity) :
    Program (Except Failure (Option (List Member))) := do
  match ← Program.ask (.listMembers g.emailId) with
  | .ok members => return .ok (some members)
  | .error f =>
    if mode.isMissing f then
      Program.emit (.groupMissing g.emailId activity)
      return .ok none
    else
      return .error (.during ("unable to retrieve members in group " ++ Text.quote g.emailId) f)

/-- Gives a member another role, in place. -/
def changeRole (mode : Mode) (g : GroupSpec) (role : Role) (email : String) (m : Member) :
    Program Failures := do
  let change := Change.updateMember g.emailId email m.role role
  if mode.confirm then
    Program.emit (.begun change)
    match ← Program.ask (.updateMember g.emailId m.id { m with role }) with
    | .ok _ =>
      Program.emit (.finished change)
      return .none
    | .error f =>
      return .of (.during
        ("unable to update " ++ email ++ " in " ++ Text.quote g.emailId ++ " as " ++ role.name) f)
  else
    Program.emit (.would change)
    return .none

/-- Adds a member. -/
def addMember (mode : Mode) (g : GroupSpec) (role : Role) (email : String) : Program Failures := do
  let change := Change.addMember g.emailId email role
  if mode.confirm then
    Program.emit (.begun change)
    match ← Program.ask (.insertMember g.emailId (Member.new email role)) with
    | .ok _ =>
      Program.emit (.finished change)
      return .none
    | .error f =>
      return .of (.during
        ("unable to add " ++ email ++ " to " ++ Text.quote g.emailId ++ " as " ++ role.name) f)
  else
    Program.emit (.would change)
    return .none

/-- Sees to it that an address is a member with a role, given the current members. The first member
with an equivalent address counts. -/
def placeMember (mode : Mode) (g : GroupSpec) (role : Role) (current : List Member)
    (email : String) : Program Failures :=
  match current.find? (Email.equals ·.email email) with
  | some m => if m.role = role then return .none else changeRole mode g role email m
  | none => addMember mode g role email

/-- Sees to it that every given address is a member of the group with a role. -/
def addOrUpdateMembers (mode : Mode) (g : GroupSpec) (role : Role) (emails : List String) :
    Program Failures := do
  Program.emit (.entered g.emailId (.addOrUpdateMembers role emails))
  match ← listMembers mode g .addingMembers with
  | .error f => return .of f
  | .ok none => return .none
  | .ok (some current) => gather (placeMember mode g role current) emails

/-- Removes one member. -/
def removeMember (mode : Mode) (g : GroupSpec) (m : Member) : Program Failures := do
  let change := Change.removeMember g.emailId m.email m.role
  if mode.confirm then
    Program.emit (.begun change)
    match ← Program.ask (.deleteMember g.emailId m.id) with
    | .ok () =>
      Program.emit (.finished change)
      return .none
    | .error f =>
      return .of (.during
        ("unable to remove " ++ m.email ++ " from " ++ Text.quote g.emailId ++ " as a "
          ++ m.role.name) f)
  else
    Program.emit (.would change)
    return .none

/-- Removes the members that may go and have no equivalent among the addresses to keep. -/
def removeUnlisted (mode : Mode) (g : GroupSpec) (keep : List String)
    (removable : Member → Bool) : Program Failures := do
  match ← listMembers mode g .removingMembers with
  | .error f => return .of f
  | .ok none => return .none
  | .ok (some current) =>
    gather (removeMember mode g)
      (current.filter fun m => removable m && !Email.contains keep m.email)

/-- Removes the owners and managers that are not to be kept. -/
def removeOwnersOrManagers (mode : Mode) (g : GroupSpec) (keep : List String) :
    Program Failures := do
  Program.emit (.entered g.emailId .removeOwnersOrManagers)
  removeUnlisted mode g keep fun m => m.role != .member

/-- Removes the members that are not to be kept, whatever their role. -/
def removeMembers (mode : Mode) (g : GroupSpec) (keep : List String) : Program Failures := do
  Program.emit (.entered g.emailId .removeMembers)
  removeUnlisted mode g keep fun _ => true

end GroupKeeper.Reconcile
