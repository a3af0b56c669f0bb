import GroupKeeper.Role
import GroupKeeper.Dictionary
import GroupKeeper.Settings

/-! Rosters: the groups that a directory should have, each with its settings and its members. -/

namespace GroupKeeper

/-- What one group should be like. -/
structure GroupSpec where
  emailId : String
  name : String
  description : String
  /-- Choices that differ from the default settings, and control keys. -/
  settings : Dictionary String
  owners : List String
  managers : List String
  members : List String
  deriving DecidableEq

/-- The groups that a directory should have. -/
structure Roster where
  groups : List GroupSpec
  deriving DecidableEq

namespace GroupSpec

/-- A group about which nothing is said. -/
def blank : GroupSpec := ⟨"", "", "", .empty, [], [], []⟩

instance : Inhabited GroupSpec := ⟨blank⟩

/-- Whether every member that is not listed should go, not only owners and managers. -/
def reconcilesMembers (g : GroupSpec) : Bool :=
  g.settings.get? reconcileMembersKey == some "true"

/-- The addresses listed under a role. -/
def emails (g : GroupSpec) : Role → List String
  | .owner => g.owners
  | .manager => g.managers
  | .member => g.members

/-- The owners, then the managers. -/
def ownersAndManagers (g : GroupSpec) : List String :=
  g.owners ++ g.managers

/-- The owners, the managers, then the members. -/
def allMembers (g : GroupSpec) : List String :=
  g.ownersAndManagers ++ g.members

/-- A group as data. Whatever is empty is left out, the address excepted. -/
def toData (g : GroupSpec) : Data :=
  .ofFields [
    some ("email-id", .text g.emailId),
    Data.textField? "name" g.name,
    Data.textField? "description" g.description,
    if g.settings.isEmpty then none
      else some ("settings", .record (g.settings.mapValues .text).entries),
    Data.textsField? "owners" g.owners,
    Data.textsField? "managers" g.managers,
    Data.textsField? "members" g.members]

/-- Reads a table of texts. Of a repeated key the last value counts. -/
def readTable {m : Type → Type} {α : Type} [Monad m] (r : Reader m α) (a : α) :
    m (Dictionary String) := do
  return .ofList (← (← r.table a).mapM fun (k, v) => do return (k, ← r.text v))

/-- The names of a group's fields. -/
def fieldNames : List String :=
  ["email-id", "name", "description", "settings", "owners", "managers", "members"]

/-- Reads a group. Whatever is missing is empty. -/
def read {m : Type → Type} {α : Type} [Monad m] (r : Reader m α) (a : α) : m GroupSpec := do
  let field ← r.fields fieldNames a
  return {
    emailId := ← Reader.withDefault "" r.text (field "email-id")
    name := ← Reader.withDefault "" r.text (field "name")
    description := ← Reader.withDefault "" r.text (field "description")
    settings := ← Reader.withDefault .empty (readTable r) (field "settings")
    owners := ← Reader.withDefault [] r.texts (field "owners")
    managers := ← Reader.withDefault [] r.texts (field "managers")
    members := ← Reader.withDefault [] r.texts (field "members") }

end GroupSpec

namespace Roster

/-- A roster without groups. -/
def empty : Roster := ⟨[]⟩

instance : Inhabited Roster := ⟨empty⟩

/-- A roster as data. -/
def toData (c : Roster) : Data :=
  .ofFields [
    if c.groups.isEmpty then none else some ("groups", .list (c.groups.map (·.toData)))]

/-- Reads a roster. -/
def read {m : Type → Type} {α : Type} [Monad m] (r : Reader m α) (a : α) : m Roster := do
  let field ← r.fields ["groups"] a
  let readAll := fun a => do (← r.items a).mapM (GroupSpec.read r)
  return ⟨← Reader.withDefault [] readAll (field "groups")⟩

end Roster

end GroupKeeper
