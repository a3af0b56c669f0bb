import GroupKeeper.Role
import GroupKeeper.Dictionary
import GroupKeeper.Data.Reader

/-! Groups and members as a directory reports them, with their form as data. -/

namespace GroupKeeper

/-- A group of the directory. -/
structure Group where
  id : String
  email : String
  name : String
  description : String
  deriving Repr, DecidableEq, Inhabited

/-- A membership of a group. The directory assigns the id, by which it is changed and removed. -/
structure Member where
  id : String
  email : String
  role : Role
  deriving Repr, DecidableEq, Inhabited

namespace Group

/-- A group as data. Empty texts are left out, the address excepted. -/
def toData (g : Group) : Data :=
  .ofFields [
    Data.textField? "id" g.id,
    some ("email", .text g.email),
    Data.textField? "name" g.name,
    Data.textField? "description" g.description]

/-- Reads a group. Only the address is required. -/
def read {α : Type} (r : Reader Option α) (a : α) : Option Group := do
  let field ← r.fields ["id", "email", "name", "description"] a
  return {
    id := ← Reader.withDefault "" r.text (field "id")
    email := ← r.text (← field "email")
    name := ← Reader.withDefault "" r.text (field "name")
    description := ← Reader.withDefault "" r.text (field "description") }

end Group

namespace Member

/-- A membership that the directory does not know yet. -/
def new (email : String) (role : Role) : Member := ⟨"", email, role⟩

/-- A membership as data. An empty id is left out. -/
def toData (m : Member) : Data :=
  .ofFields [
    Data.textField? "id" m.id,
    some ("email", .text m.email),
    some ("role", .text m.role.name)]

/-- Reads a role. -/
def readRole {α : Type} (r : Reader Option α) (a : α) : Option Role := do
  Role.ofName? (← r.choice a)

/-- Reads a membership. Only the role is required. -/
def read {α : Type} (r : Reader Option α) (a : α) : Option Member := do
  let field ← r.fields ["id", "email", "role"] a
  return {
    id := ← Reader.withDefault "" r.text (field "id")
    email := ← Reader.withDefault "" r.text (field "email")
    role := ← readRole r (← field "role") }

end Member

end GroupKeeper
