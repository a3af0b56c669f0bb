import GroupKeeper.Call
import GroupKeeper.Text.Lowercase

/-! A directory in memory. It answers every call, records the calls that change something, and can
be told to fail. Groups are kept under their address in small letters. -/

namespace GroupKeeper

/-- A group with everything that belongs to it. -/
structure DirectoryEntry where
  group : Group
  members : List Member
  settings : Settings
  deriving DecidableEq

/-- A directory in memory. -/
structure Directory where
  /-- The groups, under their addresses in small letters. -/
  groups : Dictionary DirectoryEntry
  /-- The changing calls so far. -/
  calls : List Call
  /-- The addresses in small letters for which changing a membership fails. -/
  failingMembers : List String
  /-- The addresses in small letters for which looking up the group or its settings fails. -/
  failingGroups : List String
  /-- Whether listing the groups fails. -/
  failingList : Bool
  /-- How long a group lookup takes, in milliseconds. -/
  lookupDelay : Nat
  /-- The number of the last id that was given out. -/
  lastId : Nat
  deriving DecidableEq

namespace Directory

/-- A directory without groups. -/
def empty : Directory := ⟨.empty, [], [], [], false, 0, 0⟩

instance : Inhabited Directory := ⟨empty⟩

/-- What a group is kept under. -/
def key (address : String) : String := Text.lower address

/-- The failure of a call on a group that does not exist. -/
def groupNotFound (address : String) : Failure :=
  .because (.notFound "group" address)

/-- The failure that the directory was told to produce. -/
def injected (address : String) : Failure :=
  .ofMessage ("injected failure for " ++ address)

/-- The group under an address. -/
def find? (d : Directory) (address : String) : Option DirectoryEntry :=
  d.groups.get? (key address)

/-- Puts a group in place of what stood under its address. -/
def put (d : Directory) (address : String) (e : DirectoryEntry) : Directory :=
  { d with groups := d.groups.insert (key address) e }

/-- Gives out an id. -/
def nextId (d : Directory) : String × Directory :=
  (toString (d.lastId + 1), { d with lastId := d.lastId + 1 })

/-- Records a call. -/
def record (d : Directory) (c : Call) : Directory :=
  { d with calls := d.calls ++ [c] }

/-- Whether changing a membership of an address fails. -/
def failsMember (d : Directory) (email : String) : Bool :=
  d.failingMembers.contains (Text.lower email)

/-- Whether looking up a group fails. -/
def failsGroup (d : Directory) (address : String) : Bool :=
  d.failingGroups.contains (key address)

/-- Adds a group with no members and no settings. -/
def withGroup (d : Directory) (email name description : String) : Directory :=
  let (id, d) := d.nextId
  d.put email ⟨⟨id, email, name, description⟩, [], .unset⟩

/-- Adds a member to a group. Fails if there is no such group, but for the id, which is gone. -/
def withMember (d : Directory) (address email : String) (role : Role) :
    Except Failure Unit × Directory :=
  let (id, d) := d.nextId
  match d.find? address with
  | some e => (.ok (), d.put address { e with members := e.members ++ [⟨id, email, role⟩] })
  | none => (.error (.ofMessage ("no group " ++ address)), d)

/-- Replaces the settings of a group. Fails if there is no such group. -/
def withSettings (d : Directory) (address : String) (settings : Settings) :
    Except Failure Unit × Directory :=
  match d.find? address with
  | some e => (.ok (), d.put address { e with settings })
  | none => (.error (.ofMessage ("no group " ++ address)), d)

/-- Makes every change to a membership of an address fail. -/
def withFailingMember (d : Directory) (email : String) : Directory :=
  { d with failingMembers := d.failingMembers ++ [Text.lower email] }

/-- Makes lookups of a group and of its settings fail. -/
def withFailingGroup (d : Directory) (address : String) : Directory :=
  { d with failingGroups := d.failingGroups ++ [key address] }

/-- Makes listing the groups fail. -/
def withFailingList (d : Directory) : Directory := { d with failingList := true }

/-- Makes every group lookup take a time. -/
def withLookupDelay (d : Directory) (delay : Nat) : Directory := { d with lookupDelay := delay }

/-- The recorded calls, and the directory without them. -/
def takeCalls (d : Directory) : List Call × Directory :=
  (d.calls, { d with calls := [] })

/-- The members of a group with their roles, in the order of their addresses. -/
def memberTable (e : DirectoryEntry) : List (String × Role) :=
  (e.members.map fun m => (m.email, m.role)).mergeSort fun a b =>
    a.1 < b.1 || (a.1 == b.1 && a.2.rank ≤ b.2.rank)

/-- Looks up a group. -/
def getGroup (d : Directory) (address : String) : Except Failure Group :=
  if d.failsGroup address then .error (injected address)
  else match d.find? address with
    | some e => .ok e.group
    | none => .error (groupNotFound address)

/-- Lists the groups in the order of their addresses. -/
def listGroups (d : Directory) : Except Failure (List Group) :=
  if d.failingList then .error (.ofMessage "injected failure listing groups")
  else .ok ((d.groups.values.map (·.group)).mergeSort fun a b => a.email ≤ b.email)

/-- Inserts a group, which gets a new id. -/
def insertGroup (d : Directory) (g : Group) : Except Failure Group × Directory :=
  if (d.find? g.email).isSome then
    (.error (.ofMessage ("group " ++ Text.quote g.email ++ " already exists")), d)
  else
    let (id, d) := (d.record (.insertGroup g)).nextId
    let created := { g with id }
    (.ok created, d.put g.email ⟨created, [], .unset⟩)

/-- Updates the name and the description of a group where they are not empty. -/
def updateGroup (d : Directory) (address : String) (g : Group) :
    Except Failure Group × Directory :=
  let d := d.record (.updateGroup address g)
  match d.find? address with
  | some e =>
    let updated := { e.group with
      name := if g.name.isEmpty then e.group.name else g.name
      description := if g.description.isEmpty then e.group.description else g.description }
    (.ok updated, d.put address { e with group := updated })
  | none => (.error (groupNotFound address), d)

/-- Deletes a group. -/
def deleteGroup (d : Directory) (address : String) : Except Failure Unit × Directory :=
  let d := d.record (.deleteGroup address)
  match d.find? address with
  | some _ => (.ok (), { d with groups := d.groups.erase (key address) })
  | none => (.error (groupNotFound address), d)

/-- Lists the members of a group. -/
def listMembers (d : Directory) (address : String) : Except Failure (List Member) :=
  match d.find? address with
  | some e => .ok e.members
  | none => .error (groupNotFound address)

/-- Inserts a member, who gets a new id. The id is gone even if the insertion fails later. -/
def insertMember (d : Directory) (address : String) (m : Member) :
    Except Failure Member × Directory :=
  if d.failsMember m.email then (.error (injected m.email), d)
  else
    let (id, d) := (d.record (.insertMember address m)).nextId
    match d.find? address with
    | none => (.error (groupNotFound address), d)
    | some e =>
      if e.members.any (·.email == m.email) then
        (.error (.ofMessage ("member " ++ Text.quote m.email ++ " already exists")), d)
      else
        let created := { m with id }
        (.ok created, d.put address { e with members := e.members ++ [created] })

/-- The member of a group with an id. -/
def findMember (d : Directory) (address id : String) :
    Except Failure (DirectoryEntry × Member) :=
  match d.find? address with
  | none => .error (groupNotFound address)
  | some e => match e.members.find? (·.id == id) with
    | some m => .ok (e, m)
    | none => .error (.because (.notFound "member" id))

/-- Changes the first item that satisfies a condition. -/
def replaceFirst {α : Type} (p : α → Bool) (f : α → α) : List α → List α
  | [] => []
  | x :: xs => if p x then f x :: xs else x :: replaceFirst p f xs

/-- Updates the role of a member. -/
def updateMember (d : Directory) (address id : String) (m : Member) :
    Except Failure Member × Directory :=
  if d.failsMember m.email then (.error (injected m.email), d)
  else
    let d := d.record (.updateMember address id m)
    match d.findMember address id with
    | .error f => (.error f, d)
    | .ok (e, current) =>
      (.ok { current with role := m.role },
        d.put address { e with
          members := replaceFirst (·.id == id) (fun x => { x with role := m.role }) e.members })

/-- Deletes a member. -/
def deleteMember (d : Directory) (address id : String) : Except Failure Unit × Directory :=
  match d.findMember address id with
  | .error f => (.error f, d)
  | .ok (e, m) =>
    if d.failsMember m.email then (.error (injected m.email), d)
    else
      let d := d.record (.deleteMember address id)
      (.ok (), d.put address { e with members := e.members.filter (·.id != id) })

/-- The settings of a group. -/
def getSettings (d : Directory) (address : String) : Except Failure Settings :=
  if d.failsGroup address then .error (injected address)
  else match d.find? address with
    | some e => .ok e.settings
    | none => .error (groupNotFound address)

/-- Replaces the settings of a group. -/
def patchSettings (d : Directory) (address : String) (settings : Settings) :
    Except Failure Settings × Directory :=
  let d := d.record (.patchSettings address settings)
  match d.find? address with
  | some e => (.ok settings, d.put address { e with settings })
  | none => (.error (groupNotFound address), d)

/-- The directory as a client. -/
def client : Client Directory
  | .getGroup key, d => (d.getGroup key, d)
  | .listGroups, d => (d.listGroups, d)
  | .insertGroup g, d => d.insertGroup g
  | .updateGroup key g, d => d.updateGroup key g
  | .deleteGroup key, d => d.deleteGroup key
  | .listMembers key, d => (d.listMembers key, d)
  | .insertMember key m, d => d.insertMember key m
  | .updateMember key id m, d => d.updateMember key id m
  | .deleteMember key id, d => d.deleteMember key id
  | .getSettings key, d => (d.getSettings key, d)
  | .patchSettings key s, d => d.patchSettings key s

/-- Whether a failure says that a group or a member does not exist. -/
def isMissing (f : Failure) : Bool :=
  match f.cause? with
  | some (.notFound ..) => true
  | _ => false

end Directory

end GroupKeeper
