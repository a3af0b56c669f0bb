import GroupKeeper.Group
import GroupKeeper.Proofs.Data.Reader

/-! Rosters, groups and members as data. What is blank is left out, and what is missing is read as
blank, so that whatever is written is read back as it was. -/

namespace GroupKeeper

open Data Reader

/-- What is written of a value: data that gives the value back when it is read as it is, in which no
record gives one name to two fields, and of whose own fields only those with the names that are kept
may be blank. -/
structure Data.RoundTrips {β : Type} (read : Data → Option β) (kept : List String) (x : Data)
    (value : β) : Prop where
  reads : read x = some value
  distinct : x.Distinct
  sparse : x.Sparse kept

theorem Data.RoundTrips.of_values {β : Type} {read : Data → Option β} {kept : List String}
    {x : Data} {value : β} {values : List (String × Option Data)} (hvalues : x = ofValues values)
    (hnames : (values.map (·.1)).Nodup) (hfills : ∀ f ∈ values, Fills kept f)
    (hread : read x = some value) : RoundTrips read kept x value where
  reads := hread
  distinct := hvalues ▸ distinct_ofValues hnames hfills
  sparse := hvalues ▸ sparse_ofValues hfills

section Rosters

variable {m : Type → Type} [Monad m] [LawfulMonad m] {α : Type} {r : Reader m α} {a : α}

namespace GroupSpec

/-! ## Wanted groups -/

/-- The values of the fields of a group. -/
def values (g : GroupSpec) : List (String × Option Data) := [
  ("email-id", some (.text g.emailId)),
  ("name", unlessBlank (.text g.name)),
  ("description", unlessBlank (.text g.description)),
  ("settings", unlessBlank (.record (g.settings.mapValues .text).entries)),
  ("owners", unlessBlank (.list (g.owners.map .text))),
  ("managers", unlessBlank (.list (g.managers.map .text))),
  ("members", unlessBlank (.list (g.members.map .text)))]

theorem toData_eq (g : GroupSpec) : g.toData = ofValues g.values := by
  have hsettings : (if g.settings.isEmpty then none
      else some ("settings", .record (g.settings.mapValues .text).entries)) =
      (unlessBlank (.record (g.settings.mapValues .text).entries)).map ("settings", ·) := by
    rw [unlessBlank, isBlank, Dictionary.mapValues, List.isEmpty_map, Dictionary.isEmpty]
    split <;> rfl
  rw [toData, hsettings]
  simp only [textField?_eq, textsField?_eq]
  rfl

theorem nodup_values (g : GroupSpec) : (g.values.map (·.1)).Nodup :=
  (by decide : fieldNames.Nodup)

theorem fills_values (g : GroupSpec) : ∀ f ∈ g.values, Fills ["email-id"] f := by
  simp only [values, List.forall_mem_cons]
  refine ⟨.always (by simp) (.text _), .unlessBlank (.text _), .unlessBlank (.text _),
    .unlessBlank (.record (g.settings.mapValues Data.text).nodup_keys fun f hf => ?_),
    .unlessBlank (distinct_texts _), .unlessBlank (distinct_texts _),
    .unlessBlank (distinct_texts _), by simp⟩
  obtain ⟨e, -, rfl⟩ := List.mem_map.mp hf
  exact .text _

/-- A group is read back, in whatever notation it was written. -/
theorem read_of_shows {g : GroupSpec} (h : r.Shows a g.toData) : read r a = pure g := by
  rw [toData_eq] at h
  obtain ⟨field, hfields, hrel⟩ := h.values_eq g.nodup_values fieldNames
  have hemail := withDefault_always "" (hrel "email-id")
  have hname := withDefault_text (hrel "name")
  have hdescription := withDefault_text (hrel "description")
  have hsettings := withDefault_table (hrel "settings")
  have howners := withDefault_texts (hrel "owners")
  have hmanagers := withDefault_texts (hrel "managers")
  have hmembers := withDefault_texts (hrel "members")
  rw [read, hfields]
  simp only [pure_bind, hemail, hname, hdescription, hsettings, howners, hmanagers, hmembers]

theorem roundTrips (g : GroupSpec) : RoundTrips (read reader) ["email-id"] g.toData g :=
  .of_values g.toData_eq g.nodup_values g.fills_values (read_of_shows (shows_self _))

end GroupSpec

namespace Roster

/-! ## Rosters -/

/-- The value of the only field of a roster. -/
def values (c : Roster) : List (String × Option Data) :=
  [("groups", unlessBlank (.list (c.groups.map (·.toData))))]

theorem toData_eq (c : Roster) : c.toData = ofValues c.values := by
  have hgroups : (if c.groups.isEmpty then none
      else some ("groups", .list (c.groups.map (·.toData)))) =
      (unlessBlank (.list (c.groups.map (·.toData)))).map ("groups", ·) := by
    rw [unlessBlank, isBlank, List.isEmpty_map]
    split <;> rfl
  rw [toData, hgroups]
  rfl

theorem nodup_values (c : Roster) : (c.values.map (·.1)).Nodup :=
  List.nodup_singleton "groups"

theorem fills_values (c : Roster) : ∀ f ∈ c.values, Fills [] f := by
  rw [values, List.forall_mem_singleton]
  refine .unlessBlank (.list fun x hx => ?_)
  obtain ⟨g, -, rfl⟩ := List.mem_map.mp hx
  exact g.roundTrips.distinct

/-- A roster is read back, in whatever notation it was written. -/
theorem read_of_shows {c : Roster} (h : r.Shows a c.toData) : read r a = pure c := by
  rw [toData_eq] at h
  obtain ⟨field, hfields, hrel⟩ := h.values_eq c.nodup_values ["groups"]
  have hgroups : withDefault [] (fun a => do (← r.items a).mapM (GroupSpec.read r))
      (field "groups") = pure c.groups :=
    withDefault_list (hrel "groups") fun _ _ => GroupSpec.read_of_shows
  rw [read, hfields]
  simp only [pure_bind, hgroups]

theorem roundTrips (c : Roster) : RoundTrips (read reader) [] c.toData c :=
  .of_values c.toData_eq c.nodup_values c.fills_values (read_of_shows (shows_self _))

end Roster

end Rosters

section Directory

variable {α : Type} {r : Reader Option α} {a : α}

namespace Group

/-! ## Groups of the directory -/

/-- The values of the fields of a group. -/
def values (g : Group) : List (String × Option Data) := [
  ("id", unlessBlank (.text g.id)),
  ("email", some (.text g.email)),
  ("name", unlessBlank (.text g.name)),
  ("description", unlessBlank (.text g.description))]

theorem toData_eq (g : Group) : g.toData = ofValues g.values := by
  rw [toData]
  simp only [textField?_eq]
  rfl

theorem nodup_values (g : Group) : (g.values.map (·.1)).Nodup :=
  (by decide : ["id", "email", "name", "description"].Nodup)

theorem fills_values (g : Group) : ∀ f ∈ g.values, Fills ["email"] f := by
  simp only [values, List.forall_mem_cons]
  exact ⟨.unlessBlank (.text _), .always (by simp) (.text _), .unlessBlank (.text _),
    .unlessBlank (.text _), by simp⟩

theorem read_of_shows {g : Group} (h : r.Shows a g.toData) : read r a = some g := by
  rw [toData_eq] at h
  obtain ⟨field, hfields, hrel⟩ := h.values_eq g.nodup_values ["id", "email", "name", "description"]
  obtain ⟨b, hb, hshows⟩ := exists_shows (hrel "email")
  have hid := withDefault_text (hrel "id")
  have hname := withDefault_text (hrel "name")
  have hdescription := withDefault_text (hrel "description")
  rw [read, hfields]
  simp only [Option.pure_def, Option.bind_eq_bind, Option.bind_some, hb, hid, hshows.text_eq,
    hname, hdescription]

theorem roundTrips (g : Group) : RoundTrips (read reader) ["email"] g.toData g :=
  .of_values g.toData_eq g.nodup_values g.fills_values (read_of_shows (shows_self _))

end Group

namespace Member

/-! ## Memberships -/

/-- The values of the fields of a membership. No role has a blank name. -/
def values (x : Member) : List (String × Option Data) := [
  ("id", unlessBlank (.text x.id)),
  ("email", some (.text x.email)),
  ("role", unlessBlank (.text x.role.name))]

theorem toData_eq (x : Member) : x.toData = ofValues x.values := by
  rw [toData, textField?_eq]
  cases hrole : x.role <;> simp only [values, hrole] <;> rfl

theorem nodup_values (x : Member) : (x.values.map (·.1)).Nodup :=
  (by decide : ["id", "email", "role"].Nodup)

theorem fills_values (x : Member) : ∀ f ∈ x.values, Fills ["email"] f := by
  simp only [values, List.forall_mem_cons]
  exact ⟨.unlessBlank (.text _), .always (by simp) (.text _), .unlessBlank (.text _), by simp⟩

/-- A membership is read back where a text may name a choice. -/
theorem read_of_shows {x : Member} (hchoice : ∀ b s, r.text b = some s → r.choice b = some s)
    (h : r.Shows a x.toData) : read r a = some x := by
  rw [toData_eq] at h
  obtain ⟨field, hfields, hrel⟩ := h.values_eq x.nodup_values ["id", "email", "role"]
  have hid := withDefault_text (hrel "id")
  have hemail := withDefault_always "" (hrel "email")
  have hwritten : (x.values.lookup "role").join = some (.text x.role.name) := by
    cases hrole : x.role <;> simp only [values, hrole] <;> rfl
  -- The role is asked for as a choice, and was written as a text.
  obtain ⟨b, hb, hshows⟩ := exists_shows (hwritten ▸ hrel "role")
  have hrole : readRole r b = some x.role := by
    rw [readRole, hchoice b _ hshows.text_eq]
    exact Role.ofName?_name x.role
  rw [read, hfields]
  simp only [Option.pure_def, Option.bind_eq_bind, Option.bind_some, hb, hid, hemail, hrole]

theorem choice?_of_text? {b : Data} {s : String} (h : b.text? = some s) : b.choice? = some s := by
  cases b with
  | text value => exact h
  | null | bool | number | list | record => simp [text?] at h

theorem roundTrips (x : Member) : RoundTrips (read reader) ["email"] x.toData x :=
  .of_values x.toData_eq x.nodup_values x.fills_values
    (read_of_shows (fun _ _ => choice?_of_text?) (shows_self _))

end Member

end Directory

end GroupKeeper
