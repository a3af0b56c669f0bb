import GroupKeeper.Reconcile.Groups

/-! The policy settings of a group. -/

namespace GroupKeeper.Reconcile

/-- Logs each settings key that names nothing. -/
def warnUnknown (group : String) : List String → Program Unit
  | [] => return ()
  | key :: keys => do
    Program.emit (.settingIgnored group key)
    warnUnknown group keys

/-- Patches the settings of a group if they differ from the wanted ones. -/
def updateSettings (mode : Mode) (g : GroupSpec) : Program (Except Failure Unit) := do
  Program.emit (.entered g.emailId .updateSettings)
  match ← Program.ask (.getSettings g.emailId) with
  | .error f =>
    if mode.isMissing f then
      Program.emit (.groupMissing g.emailId .updatingSettings)
      return .ok ()
    else
      return .error (.during ("unable to retrieve group settings for " ++ Text.quote g.emailId) f)
  | .ok current =>
    let (wanted, unknown) := current.desired g.settings
    warnUnknown g.emailId unknown
    if wanted = current then
      Program.emit (.settingsUpToDate g.emailId)
      return .ok ()
    else if mode.confirm then
      match ← Program.ask (.patchSettings g.emailId wanted) with
      | .ok _ =>
        Program.emit (.finished (.updateSettings g.emailId current wanted))
        return .ok ()
      | .error f =>
        return .error (.during ("unable to update group settings for " ++ Text.quote g.emailId) f)
    else
      Program.emit (.would (.updateSettings g.emailId current wanted))
      return .ok ()

end GroupKeeper.Reconcile
