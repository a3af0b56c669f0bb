import GroupKeeper.Roster
import GroupKeeper.Email
import GroupKeeper.Event
import GroupKeeper.Failure

/-! Checking a roster before the directory is asked for anything. All mistakes are found, not only
the first. Settings keys that name nothing are no mistakes; they are logged. -/

namespace GroupKeeper.Validation

/-- The greatest number of characters of a description. -/
def descriptionLimit : Nat := 300

/-- The mistakes among listed addresses, given the normal forms seen so far with the role under
which each came first. -/
def memberProblems (group : String) (seen : List (String × Role)) :
    List (Role × String) → List Problem
  | [] => []
  | (role, email) :: rest =>
    let form := Email.canonical email
    match seen.find? (·.1 == form) with
    | none => memberProblems group ((form, role) :: seen) rest
    | some (_, other) =>
      (if other = role then Problem.duplicateMember group role email
        else Problem.conflictingRoles group email role other)
        :: memberProblems group seen rest

/-- The listed addresses of a group with their roles: owners, managers, members. -/
def listed (g : GroupSpec) : List (Role × String) :=
  Role.all.flatMap fun r => (g.emails r).map (r, ·)

/-- The mistake of a description that is too long. -/
def descriptionProblems (g : GroupSpec) : List Problem :=
  let length := g.description.toList.length
  if descriptionLimit < length then [.descriptionTooLong g.emailId length descriptionLimit] else []

/-- The mistake of a control key that is neither on nor off. -/
def choiceProblems (g : GroupSpec) : List Problem :=
  match g.settings.get? reconcileMembersKey with
  | none => []
  | some value =>
    if value = "true" ∨ value = "false" then []
    else [.invalidChoice g.emailId reconcileMembersKey value]

/-- The mistakes within one group. -/
def groupProblems (g : GroupSpec) : List Problem :=
  memberProblems g.emailId [] (listed g) ++ descriptionProblems g ++ choiceProblems g

/-- The settings keys of a group that name nothing. -/
def unrecognized (g : GroupSpec) : List String :=
  g.settings.keys.filter fun key => !Settings.isKnownKey key && !controlKeys.contains key

/-- The mistakes of a list of groups, given the normal forms of the addresses seen so far. A group
without an address is not looked at further. -/
def problemsAfter (seen : List String) : List GroupSpec → List Problem
  | [] => []
  | g :: gs =>
    if g.emailId.isEmpty then .missingEmailId g.name :: problemsAfter seen gs
    else
      let form := Email.canonical g.emailId
      if seen.contains form then
        .duplicateGroup g.emailId :: groupProblems g ++ problemsAfter seen gs
      else groupProblems g ++ problemsAfter (form :: seen) gs

/-- The mistakes of a roster. -/
def problems (c : Roster) : List Problem :=
  problemsAfter [] c.groups

/-- The events of checking a roster. -/
def warnings (c : Roster) : List Event :=
  (c.groups.filter (!·.emailId.isEmpty)).flatMap fun g =>
    (unrecognized g).map (.settingUnrecognized g.emailId)

/-- Checks a roster. -/
def validate (c : Roster) : Except Failures Unit :=
  (Failures.ofList ((problems c).map fun p => .because (.problem p))).result

end GroupKeeper.Validation
