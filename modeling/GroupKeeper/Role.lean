/-! Roles of the members of a group. -/

namespace GroupKeeper

/-- What a member of a group may do. -/
inductive Role where
  | owner
  | manager
  | member
  deriving Repr, DecidableEq, Inhabited

namespace Role

/-- The roles in the order in which memberships are added. -/
def all : List Role := [owner, manager, member]

/-- The name of a role in the directory. -/
def name : Role → String
  | owner => "OWNER"
  | manager => "MANAGER"
  | member => "MEMBER"

/-- The noun for a role in messages. -/
def noun : Role → String
  | owner => "owner"
  | manager => "manager"
  | member => "member"

/-- The role with a given name. -/
def ofName? (name : String) : Option Role :=
  all.find? (·.name == name)

/-- The place of a role in the order of rank, owners first. -/
def rank : Role → Nat
  | owner => 0
  | manager => 1
  | member => 2

theorem ofName?_name (r : Role) : ofName? r.name = some r := by
  cases r <;> decide

end Role

end GroupKeeper
