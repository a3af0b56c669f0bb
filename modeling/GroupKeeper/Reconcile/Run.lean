import GroupKeeper.Reconcile.Members
import GroupKeeper.Reconcile.Policies

/-! A whole reconciliation: every wanted group once, each through all its steps, and then the groups
that are not wanted. No failure stops what remains to be done. -/

namespace GroupKeeper.Reconcile

/-- How many groups are reconciled at a time if nothing else is said. -/
def defaultWorkers : Nat := 5

/-- The members that a group keeps, and the step that removes the others. -/
def removeOthers (mode : Mode) (g : GroupSpec) : Program Failures :=
  if g.reconcilesMembers then removeMembers mode g g.allMembers
  else removeOwnersOrManagers mode g g.ownersAndManagers

/-- Puts one group through every step. -/
def reconcileGroup (mode : Mode) (g : GroupSpec) : Program Failures := do
  if g.emailId.isEmpty then
    return .of (.because (.problem (.missingEmailId g.name)))
  else
    let created ← createOrUpdateGroup mode g
    let patched ← updateSettings mode g
    let owners ← addOrUpdateMembers mode g .owner (g.emails .owner)
    let managers ← addOrUpdateMembers mode g .manager (g.emails .manager)
    let members ← addOrUpdateMembers mode g .member (g.emails .member)
    let removed ← removeOthers mode g
    return (Failures.none.record created).record patched ++ owners ++ managers ++ members ++ removed

/-- Sorts out the groups whose address is equivalent to an earlier one, given the normal forms seen
so far. Groups without an address are kept. -/
def partitionDuplicates (seen : List String) : List GroupSpec → List GroupSpec × List GroupSpec
  | [] => ([], [])
  | g :: gs =>
    if g.emailId.isEmpty then
      let (kept, dropped) := partitionDuplicates seen gs
      (g :: kept, dropped)
    else
      let form := Email.canonical g.emailId
      if seen.contains form then
        let (kept, dropped) := partitionDuplicates seen gs
        (kept, g :: dropped)
      else
        let (kept, dropped) := partitionDuplicates (form :: seen) gs
        (g :: kept, dropped)

/-- The groups to reconcile: of equivalent addresses the first. -/
def dedup (gs : List GroupSpec) : List GroupSpec :=
  (partitionDuplicates [] gs).1

/-- The groups that are passed over. -/
def duplicates (gs : List GroupSpec) : List GroupSpec :=
  (partitionDuplicates [] gs).2

/-- How many groups are in flight at most: as many as there are workers and groups, but one at
least. -/
def flight (workers : Nat) (gs : List GroupSpec) : Nat :=
  max 1 (min workers (dedup gs).length)

/-- The events before any group is reconciled. -/
def opening (workers : Nat) (gs : List GroupSpec) : List Event :=
  (duplicates gs).map (.duplicateSkipped ·.emailId)
    ++ [.started (dedup gs).length (flight workers gs)]

/-- The programs of the groups to reconcile. -/
def jobs (mode : Mode) (gs : List GroupSpec) : List (Program Failures) :=
  (dedup gs).map (reconcileGroup mode)

/-- Logs events. -/
def emitAll : List Event → Program Unit
  | [] => return ()
  | e :: es => do
    Program.emit e
    emitAll es

/-- Joins collections of failures in their order. -/
def joinFailures (all : List Failures) : Failures :=
  all.foldl (· ++ ·) .none

/-- Reconciles the groups one at a time, then removes the groups that are not wanted. -/
def reconcileGroups (mode : Mode) (workers : Nat) (gs : List GroupSpec) : Program Failures := do
  emitAll (opening workers gs)
  let all ← Program.sequence (jobs mode gs)
  let rest ← deleteOrphans mode gs
  return joinFailures all ++ rest

end GroupKeeper.Reconcile
