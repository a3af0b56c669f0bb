import GroupKeeper.Dictionary
import GroupKeeper.Data.Reader

/-! Policy settings of a group. Eleven settings are managed; every other field that the settings
service reports is carried along untouched. The wanted settings of a group are its current ones with
the managed settings reset to a table of defaults and then overridden by the group's own choices. -/

namespace GroupKeeper

/-- The managed settings. -/
inductive Policy where
  | allowExternalMembers
  | allowWebPosting
  | whoCanJoin
  | whoCanViewMembership
  | whoCanViewGroup
  | whoCanDiscoverGroup
  | whoCanModerateMembers
  | whoCanModerateContent
  | whoCanPostMessage
  | messageModerationLevel
  | membersCanPostAsTheGroup
  deriving Repr, DecidableEq

namespace Policy

/-- The managed settings in the order in which they are written. -/
def all : List Policy := [
  allowExternalMembers, allowWebPosting, whoCanJoin, whoCanViewMembership, whoCanViewGroup,
  whoCanDiscoverGroup, whoCanModerateMembers, whoCanModerateContent, whoCanPostMessage,
  messageModerationLevel, membersCanPostAsTheGroup]

theorem mem_all (p : Policy) : p ∈ all := by
  cases p <;> decide

/-- The name of a setting in a roster and in messages. -/
def name : Policy → String
  | allowExternalMembers => "AllowExternalMembers"
  | allowWebPosting => "AllowWebPosting"
  | whoCanJoin => "WhoCanJoin"
  | whoCanViewMembership => "WhoCanViewMembership"
  | whoCanViewGroup => "WhoCanViewGroup"
  | whoCanDiscoverGroup => "WhoCanDiscoverGroup"
  | whoCanModerateMembers => "WhoCanModerateMembers"
  | whoCanModerateContent => "WhoCanModerateContent"
  | whoCanPostMessage => "WhoCanPostMessage"
  | messageModerationLevel => "MessageModerationLevel"
  | membersCanPostAsTheGroup => "MembersCanPostAsTheGroup"

/-- The name of a setting's field in the settings service. -/
def field : Policy → String
  | allowExternalMembers => "allowExternalMembers"
  | allowWebPosting => "allowWebPosting"
  | whoCanJoin => "whoCanJoin"
  | whoCanViewMembership => "whoCanViewMembership"
  | whoCanViewGroup => "whoCanViewGroup"
  | whoCanDiscoverGroup => "whoCanDiscoverGroup"
  | whoCanModerateMembers => "whoCanModerateMembers"
  | whoCanModerateContent => "whoCanModerateContent"
  | whoCanPostMessage => "whoCanPostMessage"
  | messageModerationLevel => "messageModerationLevel"
  | membersCanPostAsTheGroup => "membersCanPostAsTheGroup"

/-- The setting with a given name. -/
def ofName? (s : String) : Option Policy :=
  all.find? (·.name == s)

/-- The setting with a given field. -/
def ofField? (s : String) : Option Policy :=
  all.find? (·.field == s)

/-- The values that managed settings are reset to. Posting from the web has no default. -/
def defaults : List (Policy × String) := [
  (allowExternalMembers, "true"),
  (whoCanJoin, "INVITED_CAN_JOIN"),
  (whoCanViewMembership, "ALL_MANAGERS_CAN_VIEW"),
  (whoCanViewGroup, "ALL_MEMBERS_CAN_VIEW"),
  (whoCanDiscoverGroup, "ALL_IN_DOMAIN_CAN_DISCOVER"),
  (whoCanModerateMembers, "OWNERS_AND_MANAGERS"),
  (whoCanModerateContent, "OWNERS_AND_MANAGERS"),
  (whoCanPostMessage, "ALL_MEMBERS_CAN_POST"),
  (messageModerationLevel, "MODERATE_NONE"),
  (membersCanPostAsTheGroup, "false")]

end Policy

/-- The key of a group's settings that asks for full reconciliation of its members. -/
def reconcileMembersKey : String := "ReconcileMembers"

/-- The keys of a group's settings that steer the reconciliation and are no policy. -/
def controlKeys : List String := [reconcileMembersKey]

/-- The settings of a group: the managed ones that are set, and every other field as it came. -/
structure Settings where
  managed : Policy → Option String
  other : Dictionary Data

namespace Settings

/-- Settings with nothing set. -/
def unset : Settings := ⟨fun _ => none, .empty⟩

instance : Inhabited Settings := ⟨unset⟩

instance : DecidableEq Settings := fun a b =>
  if h : (∀ p ∈ Policy.all, a.managed p = b.managed p) ∧ a.other = b.other then
    isTrue (by
      obtain ⟨f, o⟩ := a
      obtain ⟨g, o'⟩ := b
      obtain rfl : f = g := funext fun p => h.1 p p.mem_all
      obtain rfl : o = o' := h.2
      rfl)
  else isFalse fun e => h ⟨fun _ _ => by rw [e], by rw [e]⟩

/-- Sets one managed setting. -/
def put (s : Settings) (p : Policy) (value : String) : Settings :=
  { s with managed := fun q => if q = p then some value else s.managed q }

/-- Sets the managed setting with a given name. None if there is none. -/
def set? (s : Settings) (key value : String) : Option Settings :=
  (Policy.ofName? key).map (s.put · value)

/-- Whether a key names a managed setting. -/
def isKnownKey (key : String) : Bool :=
  (Policy.ofName? key).isSome

/-- Resets the managed settings that have a default. -/
def withDefaults (s : Settings) : Settings :=
  Policy.defaults.foldl (fun s (p, value) => s.put p value) s

/-- The defaults and nothing else. -/
def defaults : Settings := unset.withDefaults

/-- One override: it is applied, or its key is noted as unknown unless it is a control key. -/
def override (state : Settings × List String) (entry : String × String) : Settings × List String :=
  match state.1.set? entry.1 entry.2 with
  | some s => (s, state.2)
  | none => if controlKeys.contains entry.1 then state else (state.1, state.2 ++ [entry.1])

/-- The settings that a group with settings `s` should have under the given overrides, and the keys
that name nothing. -/
def desired (s : Settings) (overrides : Dictionary String) : Settings × List String :=
  overrides.entries.foldl override (s.withDefaults, [])

/-- The managed settings that are set, by name. -/
def managedTable (s : Settings) : Dictionary String :=
  .ofList (Policy.all.filterMap fun p => (s.managed p).map (p.name, ·))

/-- Settings as data: the managed fields that are set, then the other fields. -/
def toData (s : Settings) : Data :=
  .record ((Policy.all.filterMap fun p => (s.managed p).map (p.field, .text ·)) ++ s.other.entries)

/-- A managed field as read: nothing where it is absent or null. Fails if it is no text. -/
def managedField? (entries : List (String × Data)) (p : Policy) : Option (Option String) :=
  match entries.find? (·.1 == p.field) with
  | none => some none
  | some (_, .null) => some none
  | some (_, .text s) => some (some s)
  | some _ => none

/-- Settings of the fields of a record. A managed field must be a text or null and may not stand
twice; of any other repeated field the last one counts. -/
def ofEntries? (entries : List (String × Data)) : Option Settings :=
  if Policy.all.all fun p =>
      (entries.filter (·.1 == p.field)).length ≤ 1 && (managedField? entries p).isSome then
    some {
      managed := fun p => (managedField? entries p).join
      other := .ofList (entries.filter fun e => (Policy.ofField? e.1).isNone) }
  else none

/-- Settings of a record. -/
def ofData? (d : Data) : Option Settings := do
  ofEntries? (← d.entries?)

end Settings

end GroupKeeper
