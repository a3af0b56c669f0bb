import GroupKeeper.Proofs.Reconcile.Members
import GroupKeeper.Proofs.Settings
import GroupKeeper.Proofs.Validation

/-! Putting one group through every step. In a directory that was not told to fail the steps
succeed, and none of them undoes what an earlier one has settled. -/

namespace GroupKeeper

open Directory Program

/-- What stands for a group that is not there. -/
def DirectoryEntry.blank : DirectoryEntry :=
  ⟨⟨"", "", "", ""⟩, [], .unset⟩

/-- Every listed address is settled: the first member of its mailbox has the listed role. -/
def Listed (g : GroupSpec) (ms : List Member) : Prop :=
  ∀ r, ∀ a ∈ g.emails r, ∃ m, mailbox? ms a = some m ∧ m.role = r

/-- Members as a group wants them. If members are reconciled, only listed ones are left, and
otherwise only listed owners and managers besides mere members. -/
structure WantedMembers (g : GroupSpec) (ms : List Member) : Prop where
  roles : Listed g ms
  onlyListed : g.settings.get? reconcileMembersKey = some "true" →
    ∀ m ∈ ms, Email.contains g.allMembers m.email = true
  onlyPrivileged : g.settings.get? reconcileMembersKey ≠ some "true" →
    ∀ m ∈ ms, m.role ≠ .member → Email.contains g.ownersAndManagers m.email = true

/-- Unless members are reconciled, nobody who was a mere member is removed. -/
def KeepsMembers (g : GroupSpec) (before after : List Member) : Prop :=
  g.settings.get? reconcileMembersKey ≠ some "true" →
    ∀ m ∈ before, m.role = .member → ∃ m' ∈ after, m'.id = m.id ∧ m'.email = m.email

/-- A group that was reconciled, with what it was like before. Empty texts say nothing. -/
structure Settled (g : GroupSpec) (before after : DirectoryEntry) : Prop where
  name : after.group.name = if g.name.isEmpty then before.group.name else g.name
  description : after.group.description =
    if g.description.isEmpty then before.group.description else g.description
  settings : after.settings = (before.settings.desired g.settings).1
  members : WantedMembers g after.members
  kept : KeepsMembers g before.members after.members

/-- Whether a member goes once all listed addresses have been placed. -/
def goes (g : GroupSpec) (m : Member) : Bool :=
  if g.reconcilesMembers then !Email.contains g.allMembers m.email
  else m.role != .member && !Email.contains g.ownersAndManagers m.email

/-- A group that was reconciled, with exactly the members it then has. -/
structure Reconciled (g : GroupSpec) (before after : DirectoryEntry) : Prop where
  name : after.group.name = if g.name.isEmpty then before.group.name else g.name
  description : after.group.description =
    if g.description.isEmpty then before.group.description else g.description
  settings : after.settings = (before.settings.desired g.settings).1
  members : ∃ placed, PlacedAs (Validation.listed g) before.members placed ∧
    after.members = placed.filter fun m => !goes g m

namespace Reconcile

variable {d₀ : Directory} {g : GroupSpec} {e : DirectoryEntry}

/-! ## The group itself -/

/-- A group that has the wanted name and description and is otherwise as it was. -/
structure Named (g : GroupSpec) (before after : DirectoryEntry) : Prop where
  name : after.group.name = if g.name.isEmpty then before.group.name else g.name
  description : after.group.description =
    if g.description.isEmpty then before.group.description else g.description
  members : after.members = before.members
  settings : after.settings = before.settings

theorem named_of_not_differs (h : differs g e.group = false) : Named g e e := by
  simp only [differs, Bool.or_eq_false_iff, Bool.and_eq_false_iff, Bool.not_eq_false',
    bne_eq_false_iff_eq] at h
  obtain ⟨hname, hdescription⟩ := h
  refine ⟨?_, ?_, rfl, rfl⟩
  · split
    · rfl
    · next hempty => exact hname.resolve_left hempty
  · split
    · rfl
    · next hempty => exact hdescription.resolve_left hempty

theorem named_insertGroup (g : GroupSpec) (id : String) :
    Named g .blank ⟨{ wantedGroup g with id }, [], .unset⟩ := by
  refine ⟨?_, ?_, rfl, rfl⟩
  · split
    · next hempty => exact String.isEmpty_iff.mp hempty
    · rfl
  · split
    · next hempty => exact String.isEmpty_iff.mp hempty
    · rfl

/-- A group that has the wanted name and description, or its old ones if it cannot be looked up, and
is otherwise as it was. -/
structure Headed (d₀ : Directory) (g : GroupSpec) (before after : DirectoryEntry) : Prop where
  name : after.group.name =
    if d₀.failsGroup g.emailId || g.name.isEmpty then before.group.name else g.name
  description : after.group.description =
    if d₀.failsGroup g.emailId || g.description.isEmpty then before.group.description
    else g.description
  members : after.members = before.members
  settings : after.settings = before.settings

theorem headed_of_fails (h : d₀.failsGroup g.emailId = true) (e : DirectoryEntry) :
    Headed d₀ g e e :=
  ⟨by simp [h], by simp [h], rfl, rfl⟩

theorem headed_eq_named (h : d₀.failsGroup g.emailId = false) (before : DirectoryEntry) :
    Headed d₀ g before = Named g before := by
  refine funext fun after => propext ⟨fun hheaded => ?_, fun hnamed => ?_⟩
  · exact ⟨by simpa [h] using hheaded.name, by simpa [h] using hheaded.description,
      hheaded.members, hheaded.settings⟩
  · exact ⟨by simpa [h] using hnamed.name, by simpa [h] using hnamed.description,
      hnamed.members, hnamed.settings⟩

/-- A group that satisfies a condition, unless there was none and the lookup fails. -/
def Found (d₀ : Directory) (g : GroupSpec) (before : Option DirectoryEntry)
    (Q : DirectoryEntry → Prop) (o : Option DirectoryEntry) : Prop :=
  if d₀.failsGroup g.emailId = true ∧ before = none then o = none else ∃ e, o = some e ∧ Q e

theorem found_of_missing {before : Option DirectoryEntry} {Q : DirectoryEntry → Prop}
    (h : d₀.failsGroup g.emailId = true ∧ before = none) : Found d₀ g before Q = (· = none) :=
  funext fun _ => if_pos h

theorem found_of_not_missing {before : Option DirectoryEntry} {Q : DirectoryEntry → Prop}
    (h : ¬ (d₀.failsGroup g.emailId = true ∧ before = none)) :
    Found d₀ g before Q = fun o => ∃ e, o = some e ∧ Q e :=
  funext fun _ => if_neg h

theorem found_of_lookup {before : Option DirectoryEntry} {Q : DirectoryEntry → Prop}
    (h : d₀.failsGroup g.emailId = false) :
    Found d₀ g before Q = fun o => ∃ e, o = some e ∧ Q e :=
  found_of_not_missing (by simp [h])

/-- The group is there afterwards, whether it was there before or not, unless the lookup fails. -/
theorem leaves_createOrUpdateGroup (before : Option DirectoryEntry) :
    Leaves d₀ g.emailId (· = before) (createOrUpdateGroup (mode true) g) fun r o =>
      (Faultless d₀ → r = .ok ()) ∧ Found d₀ g before (Headed d₀ g (before.getD .blank)) o := by
  rw [createOrUpdateGroup, emit_bind, ask_bind]
  refine .log _ ?_
  cases hlocked : d₀.failsGroup g.emailId with
  | true =>
      refine .read rfl (fun d hfaults _ => getGroup_of_fails ((hfaults.failsGroup _).trans hlocked))
        (.pure fun o h => ⟨fun hd₀ => ?_, ?_⟩)
      · simp [hd₀.failsGroup] at hlocked
      · rw [h]
        cases before with
        | none => simp [Found, hlocked]
        | some e => simpa [Found] using headed_of_fails hlocked e
  | false =>
      rw [found_of_lookup hlocked, headed_eq_named hlocked]
      cases before with
      | none =>
          refine .read rfl (fun d hfaults hfind =>
            getGroup_of_missing ((hfaults.failsGroup _).trans hlocked) hfind) ?_
          simp only [mode_isMissing, isMissing_groupNotFound, mode_confirm, if_true, emit_bind]
          rw [ask_bind]
          refine .log _ (.change
            (S := fun o => ∃ e, o = some e ∧ Named g DirectoryEntry.blank e) ?_ fun u => ?_)
          · intro d hfind
            obtain ⟨hok, id, hget⟩ := client_insertGroup (g := wantedGroup g) hfind
            exact ⟨hok, _, hget, named_insertGroup g id⟩
          · exact .log _ (.pure fun _ h => ⟨fun _ => rfl, h⟩)
      | some e =>
          refine .read rfl (fun d hfaults hfind =>
            getGroup_of_find ((hfaults.failsGroup _).trans hlocked) hfind) ?_
          by_cases hdiffers : differs g e.group = true
          · simp only [hdiffers, mode_confirm, if_true, emit_bind]
            rw [ask_bind]
            refine .log _ (.change (S := fun o => ∃ e', o = some e' ∧ Named g e e') ?_ fun u => ?_)
            · intro d hfind
              obtain ⟨hok, hget⟩ := client_updateGroup hfind (wantedGroup g)
              exact ⟨hok, _, hget, rfl, rfl, rfl, rfl⟩
            · exact .log _ (.pure fun _ h => ⟨fun _ => rfl, h⟩)
          · simp only [hdiffers]
            exact .pure fun o h =>
              ⟨fun _ => rfl, e, h, named_of_not_differs (by simpa using hdiffers)⟩

theorem ensures_createOrUpdateGroup (before : Option DirectoryEntry) :
    Ensures g.emailId (· = before) (createOrUpdateGroup (mode true) g) (.ok ())
      (fun o => ∃ e, o = some e ∧ Named g (before.getD .blank) e) := by
  refine .of_leaves fun d₀ hd₀ => (leaves_createOrUpdateGroup before).mono fun r o h => ?_
  obtain ⟨hok, hfound⟩ := h
  rw [found_of_lookup (hd₀.failsGroup _), headed_eq_named (hd₀.failsGroup _)] at hfound
  exact ⟨hok hd₀, hfound⟩

/-! ## Its settings -/

/-- The settings that a group has in the end: the wanted ones, unless looking them up fails. -/
def settingsAfter (d₀ : Directory) (g : GroupSpec) (before : Settings) : Settings :=
  if d₀.failsGroup g.emailId then before else (before.desired g.settings).1

theorem leaves_updateSettings_of_fails {P : Option DirectoryEntry → Prop}
    (hlocked : d₀.failsGroup g.emailId = true) :
    Leaves d₀ g.emailId P (updateSettings (mode true) g) fun _ o => True ∧ P o := by
  rw [updateSettings, emit_bind, ask_bind]
  refine .log _ (.read rfl
    (fun d hfaults _ => getSettings_of_fails ((hfaults.failsGroup _).trans hlocked)) ?_)
  exact .pure fun o h => ⟨trivial, h⟩

theorem leaves_updateSettings :
    Leaves d₀ g.emailId (· = some e) (updateSettings (mode true) g) fun r o =>
      (Faultless d₀ → r = .ok ()) ∧
      o = some { e with settings := settingsAfter d₀ g e.settings } := by
  cases hlocked : d₀.failsGroup g.emailId with
  | true =>
      refine (leaves_updateSettings_of_fails hlocked).mono fun r o h => ⟨fun hd₀ => ?_, ?_⟩
      · simp [hd₀.failsGroup] at hlocked
      · simpa [settingsAfter, hlocked] using h.2
  | false =>
      rw [updateSettings, emit_bind, ask_bind]
      refine .log _ (.read rfl (fun d hfaults hfind =>
        getSettings_of_find ((hfaults.failsGroup _).trans hlocked) hfind) ?_)
      simp only [settingsAfter, hlocked]
      cases e.settings.desired g.settings with
      | mk wanted unknown =>
          refine (Leaves.of_quiet fun d _ _ => quiet_warnUnknown _ _).bind fun _ => ?_
          by_cases hwanted : wanted = e.settings
          · simp only [hwanted, if_true, emit_bind]
            exact .log _ (.pure fun _ h => ⟨fun _ => rfl, h.2⟩)
          · simp only [hwanted, mode_confirm, if_true, if_false]
            rw [ask_bind]
            refine .change (S := (· = some { e with settings := wanted })) ?_ fun u => ?_
            · exact fun d hfind => client_patchSettings hfind.2 _
            · exact .log _ (.pure fun _ h => ⟨fun _ => rfl, h⟩)

theorem settingsAfter_of_faultless (hd₀ : Faultless d₀) (before : Settings) :
    settingsAfter d₀ g before = (before.desired g.settings).1 := by
  simp [settingsAfter, hd₀.failsGroup]

theorem ensures_updateSettings :
    Ensures g.emailId (· = some e) (updateSettings (mode true) g) (.ok ())
      (· = some { e with settings := (e.settings.desired g.settings).1 }) :=
  .of_leaves fun _ hd₀ => leaves_updateSettings.mono fun _ _ h =>
    ⟨h.1 hd₀, settingsAfter_of_faultless hd₀ e.settings ▸ h.2⟩

/-! ## Its members -/

section Members

variable {ms ms₁ ms₂ ms₃ placed : List Member} {m : Member} {r : Role} {a : String}

theorem mem_listed : (r, a) ∈ Validation.listed g ↔ a ∈ g.emails r := by
  cases r <;> simp [Validation.listed, Role.all]

theorem apart_listed (hg : g.Distinct) : Apart (Validation.listed g) := by
  simp only [Apart, Validation.listed, Role.all, List.flatMap_cons, List.flatMap_nil,
    List.append_nil, List.pairwise_append, List.pairwise_map, List.mem_append, List.mem_map]
  refine ⟨hg.within .owner, ⟨hg.within .manager, hg.within .member, ?_⟩, ?_⟩
  · rintro _ ⟨a, ha, rfl⟩ _ ⟨b, hb, rfl⟩
    exact hg.across .manager .member (by decide) a ha b hb
  · rintro _ ⟨a, ha, rfl⟩ _ (⟨b, hb, rfl⟩ | ⟨b, hb, rfl⟩)
    · exact hg.across .owner .manager (by decide) a ha b hb
    · exact hg.across .owner .member (by decide) a ha b hb

theorem listed_eq (g : GroupSpec) : Validation.listed g =
    (g.emails .owner).map (.owner, ·) ++
      ((g.emails .manager).map (.manager, ·) ++ (g.emails .member).map (.member, ·)) := by
  simp [Validation.listed, Role.all]

theorem apart_roles (hg : g.Distinct) :
    (∀ p ∈ (g.emails .owner).map (Role.owner, ·),
      ∀ q ∈ (g.emails .manager).map (Role.manager, ·) ++ (g.emails .member).map (Role.member, ·),
        Email.equals p.2 q.2 = false) ∧
    ∀ p ∈ (g.emails .manager).map (Role.manager, ·), ∀ q ∈ (g.emails .member).map (Role.member, ·),
      Email.equals p.2 q.2 = false := by
  have hapart := apart_listed hg
  rw [Apart, listed_eq, List.pairwise_append, List.pairwise_append] at hapart
  obtain ⟨-, ⟨-, -, hlow⟩, hhigh⟩ := hapart
  exact ⟨hhigh, hlow⟩

/-- No role is undone by placing addresses under the next, as these name other mailboxes. -/
theorem placedAs_listed (hg : g.Distinct)
    (howners : PlacedAs ((g.emails .owner).map (.owner, ·)) ms ms₁)
    (hmanagers : PlacedAs ((g.emails .manager).map (.manager, ·)) ms₁ ms₂)
    (hmembers : PlacedAs ((g.emails .member).map (.member, ·)) ms₂ ms₃) :
    PlacedAs (Validation.listed g) ms ms₃ := by
  obtain ⟨hhigh, hlow⟩ := apart_roles hg
  rw [listed_eq]
  exact howners.append (hmanagers.append hmembers hlow) hhigh

theorem mailbox?_of_placedAs (hg : g.Distinct) {r s : Role} (hne : r ≠ s) {emails : List String}
    (hemails : emails ⊆ g.emails r) (h : PlacedAs (emails.map (r, ·)) ms ms₁) :
    ∀ a ∈ g.emails s, mailbox? ms₁ a = mailbox? ms a := by
  intro a ha
  refine h.others fun p hp => ?_
  obtain ⟨b, hb, rfl⟩ := List.mem_map.mp hp
  exact hg.across r s hne b (hemails hb) a ha

/-- Whether an address can be placed does not depend on those that are placed before it. -/
theorem placedAs_reached (hg : g.Distinct)
    (howners : PlacedAs (((g.emails .owner).filter (d₀.reaches ms)).map (.owner, ·)) ms ms₁)
    (hmanagers : PlacedAs (((g.emails .manager).filter (d₀.reaches ms₁)).map (.manager, ·)) ms₁ ms₂)
    (hmembers : PlacedAs (((g.emails .member).filter (d₀.reaches ms₂)).map (.member, ·)) ms₂ ms₃) :
    PlacedAs ((Validation.listed g).filter fun p => d₀.reaches ms p.2) ms ms₃ := by
  have hsub : ∀ r ms, (g.emails r).filter (d₀.reaches ms) ⊆ g.emails r :=
    fun r ms => (List.filter_sublist).subset
  have hfirst := mailbox?_of_placedAs hg (s := .manager) (by decide) (hsub _ _) howners
  have hfirst' := mailbox?_of_placedAs hg (s := .member) (by decide) (hsub _ _) howners
  have hsecond := mailbox?_of_placedAs hg (s := .member) (by decide) (hsub _ _) hmanagers
  rw [d₀.reaches_congr hfirst] at hmanagers
  rw [d₀.reaches_congr hsecond, d₀.reaches_congr hfirst'] at hmembers
  obtain ⟨hhigh, hlow⟩ := apart_roles hg
  have hfilter : ∀ r, ((g.emails r).map (r, ·)).filter (fun p => d₀.reaches ms p.2) =
      ((g.emails r).filter (d₀.reaches ms)).map (r, ·) :=
    fun r => List.filter_map
  have hmem : ∀ r, ∀ p ∈ ((g.emails r).filter (d₀.reaches ms)).map (r, ·),
      p ∈ (g.emails r).map (r, ·) :=
    fun r p hp => (List.filter_sublist.map _).subset hp
  rw [listed_eq, List.filter_append, List.filter_append, hfilter, hfilter, hfilter]
  refine howners.append (hmanagers.append hmembers fun p hp q hq => ?_) fun p hp q hq => ?_
  · exact hlow p (hmem _ p hp) q (hmem _ q hq)
  · refine hhigh p (hmem _ p hp) q ?_
    rcases List.mem_append.mp hq with hq | hq
    · exact List.mem_append_left _ (hmem _ q hq)
    · exact List.mem_append_right _ (hmem _ q hq)

theorem contains_of_mem_emails (ha : a ∈ g.emails r) (hm : Email.equals m.email a = true) :
    Email.contains g.allMembers m.email = true := by
  refine List.any_eq_true.mpr ⟨a, ?_, by rwa [Email.equals_comm]⟩
  rw [GroupSpec.allMembers, GroupSpec.ownersAndManagers, List.mem_append, List.mem_append]
  cases r with
  | owner => exact .inl (.inl ha)
  | manager => exact .inl (.inr ha)
  | member => exact .inr ha

theorem contains_of_privileged (ha : a ∈ g.emails r) (hr : r ≠ .member)
    (hm : Email.equals m.email a = true) :
    Email.contains g.ownersAndManagers m.email = true := by
  refine List.any_eq_true.mpr ⟨a, ?_, by rwa [Email.equals_comm]⟩
  rw [GroupSpec.ownersAndManagers, List.mem_append]
  cases r with
  | owner => exact .inl ha
  | manager => exact .inr ha
  | member => exact absurd rfl hr

/-- An address is among all of a group if one under some role names its mailbox. -/
theorem contains_allMembers_iff : Email.contains g.allMembers m.email = true ↔
    ∃ p ∈ Validation.listed g, Email.equals m.email p.2 = true := by
  constructor
  · intro h
    obtain ⟨a, ha, heq⟩ := List.any_eq_true.mp h
    rw [GroupSpec.allMembers, GroupSpec.ownersAndManagers, List.mem_append, List.mem_append] at ha
    rcases ha with (ha | ha) | ha
    · exact ⟨(.owner, a), mem_listed.mpr ha, Email.equals_symm heq⟩
    · exact ⟨(.manager, a), mem_listed.mpr ha, Email.equals_symm heq⟩
    · exact ⟨(.member, a), mem_listed.mpr ha, Email.equals_symm heq⟩
  · rintro ⟨p, hp, heq⟩
    exact contains_of_mem_emails (mem_listed.mp hp) heq

theorem contains_ownersAndManagers_iff :
    Email.contains g.ownersAndManagers m.email = true ↔
      ∃ p ∈ Validation.listed g, p.1 ≠ .member ∧ Email.equals m.email p.2 = true := by
  constructor
  · intro h
    obtain ⟨a, ha, heq⟩ := List.any_eq_true.mp h
    rcases List.mem_append.mp ha with ha | ha
    · exact ⟨(.owner, a), mem_listed.mpr ha, by simp, Email.equals_symm heq⟩
    · exact ⟨(.manager, a), mem_listed.mpr ha, by simp, Email.equals_symm heq⟩
  · rintro ⟨p, hp, hrole, heq⟩
    exact contains_of_privileged (mem_listed.mp hp) hrole heq

theorem not_contains_of_member (hg : g.Distinct) (ha : a ∈ g.members)
    (hm : Email.equals m.email a = true) : Email.contains g.ownersAndManagers m.email = false := by
  rw [Bool.eq_false_iff]
  intro hcontains
  obtain ⟨b, hb, hbm⟩ := List.any_eq_true.mp hcontains
  have hba : Email.equals b a = true := Email.equals_trans hbm hm
  rcases List.mem_append.mp hb with hb | hb
  · simp [hg.across .owner .member (by decide) b hb a ha] at hba
  · simp [hg.across .manager .member (by decide) b hb a ha] at hba

theorem goes_of_listed (ha : a ∈ g.emails r) (hm : Email.equals m.email a = true)
    (hrole : m.role = r) : goes g m = false := by
  rw [goes]
  split
  · simp [contains_of_mem_emails ha hm]
  · by_cases hr : r = .member
    · simp [hrole, hr]
    · simp [contains_of_privileged ha hr hm]

theorem goes_eq_of_reconciles (hmode : g.reconcilesMembers = true) :
    goes g = fun m => !Email.contains g.allMembers m.email := by
  funext m
  rw [goes, if_pos hmode]

theorem goes_eq_of_not_reconciles (hmode : g.reconcilesMembers = false) :
    goes g = fun m => m.role != .member && !Email.contains g.ownersAndManagers m.email := by
  funext m
  rw [goes, if_neg (by simp [hmode])]

theorem reconcilesMembers_iff :
    g.reconcilesMembers = true ↔ g.settings.get? reconcileMembersKey = some "true" := by
  rw [GroupSpec.reconcilesMembers, beq_iff_eq]

/-- Placing the listed addresses and removing whoever goes makes the members what is wanted. -/
theorem wantedMembers_of_placedAs (hg : g.Distinct)
    (h : PlacedAs (Validation.listed g) ms placed) :
    WantedMembers g (placed.filter fun m => !goes g m) := by
  refine ⟨fun r a ha => ?_, fun hmode m hm => ?_, fun hmode m hm hrole => ?_⟩
  · obtain ⟨m, hfirst, hrole⟩ := h.placed (apart_listed hg) (mem_listed.mpr ha)
    have hstays : goes g m = false := goes_of_listed ha (equals_of_mailbox? hfirst) hrole
    exact ⟨m, mailbox?_filter hfirst (by rw [hstays, Bool.not_false]), hrole⟩
  · have hstays := (List.mem_filter.mp hm).2
    simpa [goes, reconcilesMembers_iff.mpr hmode] using hstays
  · have hstays := (List.mem_filter.mp hm).2
    have hdefault : g.reconcilesMembers = false := by
      rw [Bool.eq_false_iff]
      exact fun htrue => hmode (reconcilesMembers_iff.mp htrue)
    simpa [goes, hdefault, hrole] using hstays

theorem keepsMembers_of_placedAs (h : PlacedAs (Validation.listed g) ms placed) :
    KeepsMembers g ms (placed.filter fun m => !goes g m) := by
  intro hmode m hm hrole
  obtain ⟨new, rfl, -⟩ := h
  refine ⟨withGivenRole (Validation.listed g) ms m, List.mem_filter.mpr ⟨?_, ?_⟩, rfl, rfl⟩
  · exact List.mem_append_left _ (List.mem_map.mpr ⟨m, hm, rfl⟩)
  · rw [Bool.not_eq_true']
    cases hgiven : givenRole? (Validation.listed g) ms m with
    | none =>
        rw [withGivenRole_of_none hgiven, goes, if_neg (mt reconcilesMembers_iff.mp hmode), hrole]
        rfl
    | some r =>
        obtain ⟨a, ha, hfirst⟩ := givenRole?_eq_some hgiven
        rw [withGivenRole_of_some hgiven]
        exact goes_of_listed (mem_listed.mp ha) (equals_of_mailbox? (m := m) hfirst) rfl

theorem leaves_removeOthers :
    Leaves d₀ g.emailId (· = some { e with members := ms }) (removeOthers (mode true) g) fun fs o =>
      (Faultless d₀ → fs = .none) ∧
      o = some { e with members := ms.filter fun m => !(d₀.releases m && goes g m) } := by
  rw [removeOthers]
  cases hmode : g.reconcilesMembers with
  | true =>
      rw [if_pos rfl, removeMembers, emit_bind, goes_eq_of_reconciles hmode]
      exact .log _ ((leaves_removeUnlisted _ _).mono fun _ _ h => ⟨none_of_refusals h.1, h.2⟩)
  | false =>
      rw [if_neg (by simp), removeOwnersOrManagers, emit_bind, goes_eq_of_not_reconciles hmode]
      exact .log _ ((leaves_removeUnlisted _ _).mono fun _ _ h => ⟨none_of_refusals h.1, h.2⟩)

theorem filter_releases_and_goes (hd₀ : Faultless d₀) :
    (ms.filter fun m => !(d₀.releases m && goes g m)) = ms.filter fun m => !goes g m :=
  List.filter_congr fun m _ => by rw [hd₀.releases, Bool.true_and]

theorem ensures_removeOthers :
    Ensures g.emailId (· = some { e with members := ms }) (removeOthers (mode true) g) .none
      (· = some { e with members := ms.filter fun m => !goes g m }) :=
  .of_leaves fun _ hd₀ => leaves_removeOthers.mono fun _ _ h =>
    ⟨h.1 hd₀, filter_releases_and_goes hd₀ ▸ h.2⟩

/-! Where there is no group there are no members. -/

theorem leaves_addOrUpdateMembers_of_missing (role : Role) (emails : List String) :
    Leaves d₀ g.emailId (· = none) (addOrUpdateMembers (mode true) g role emails) fun fs o =>
      fs = .none ∧ o = none := by
  refine .of_quiet fun d _ hfind => .log _ ?_
  have hlist := quiet_listMembers true g .addingMembers d
  rw [hfind] at hlist
  exact hlist.bind (.pure _)

theorem leaves_removeOthers_of_missing :
    Leaves d₀ g.emailId (· = none) (removeOthers (mode true) g) fun fs o =>
      fs = .none ∧ o = none := by
  refine .of_quiet fun d _ hfind => ?_
  have hlist := quiet_listMembers true g .removingMembers d
  rw [hfind] at hlist
  rw [removeOthers]
  split
  · exact .log _ (hlist.bind (.pure _))
  · exact .log _ (hlist.bind (.pure _))

end Members

/-- What is known of the members of a reconciled group says that it is settled. -/
theorem settled_of_reconciled {before after : DirectoryEntry} (hg : g.Distinct)
    (h : Reconciled g before after) : Settled g before after := by
  obtain ⟨placed, hplaced, hmembers⟩ := h.members
  refine ⟨h.name, h.description, h.settings, ?_, ?_⟩
  · rw [hmembers]
    exact wantedMembers_of_placedAs hg hplaced
  · rw [hmembers]
    exact keepsMembers_of_placedAs hplaced

/-! ## All steps -/

/-- What becomes of a group in a directory that may have been told to fail. What cannot be looked up
stays as it is, and so does the membership of whoever is said to fail. -/
structure Handled (d₀ : Directory) (g : GroupSpec) (before after : DirectoryEntry) : Prop where
  name : after.group.name =
    if d₀.failsGroup g.emailId || g.name.isEmpty then before.group.name else g.name
  description : after.group.description =
    if d₀.failsGroup g.emailId || g.description.isEmpty then before.group.description
    else g.description
  settings : after.settings = settingsAfter d₀ g before.settings
  members : ∃ placed,
    PlacedAs ((Validation.listed g).filter fun p => d₀.reaches before.members p.2) before.members
      placed ∧
    after.members = placed.filter fun m => !(d₀.releases m && goes g m)

/-- No step undoes what an earlier one did, and none fails but for injected failures. -/
theorem leaves_reconcileGroup (hg : g.Distinct) (before : Option DirectoryEntry) :
    Leaves d₀ g.emailId (· = before) (reconcileGroup (mode true) g) fun fs o =>
      (Faultless d₀ → fs = .none) ∧ Found d₀ g before (Handled d₀ g (before.getD .blank)) o := by
  have hempty : ¬ g.emailId.isEmpty = true := by simpa using hg.named
  rw [reconcileGroup, if_neg hempty]
  refine (leaves_createOrUpdateGroup before).bind_fact fun created hcreated => ?_
  by_cases hmissing : d₀.failsGroup g.emailId = true ∧ before = none
  · have hfaulty : ¬ Faultless d₀ := fun hd₀ => by simp [hd₀.failsGroup] at hmissing
    rw [found_of_missing hmissing, found_of_missing hmissing]
    refine (leaves_updateSettings_of_fails hmissing.1).bind_fact fun patched _ => ?_
    refine (leaves_addOrUpdateMembers_of_missing .owner _).bind_fact fun owners _ => ?_
    refine (leaves_addOrUpdateMembers_of_missing .manager _).bind_fact fun managers _ => ?_
    refine (leaves_addOrUpdateMembers_of_missing .member _).bind_fact fun members _ => ?_
    refine leaves_removeOthers_of_missing.bind_fact fun removed _ => ?_
    exact .pure fun o h => ⟨fun hd₀ => absurd hd₀ hfaulty, h⟩
  · rw [found_of_not_missing hmissing, found_of_not_missing hmissing]
    refine .of_exists fun e hheaded => ?_
    refine leaves_updateSettings.bind_fact fun patched hpatched => ?_
    refine (leaves_addOrUpdateMembers (hg.within .owner)).bind_fact fun owners howners =>
      .of_exists fun ms₁ hplaced₁ => ?_
    refine (leaves_addOrUpdateMembers (hg.within .manager)).bind_fact fun managers hmanagers =>
      .of_exists fun ms₂ hplaced₂ => ?_
    refine (leaves_addOrUpdateMembers (hg.within .member)).bind_fact fun members hmembers =>
      .of_exists fun ms₃ hplaced₃ => ?_
    refine leaves_removeOthers.bind_fact fun removed hremoved => ?_
    refine .pure fun o h => ⟨fun hd₀ => ?_, ?_⟩
    · rw [hcreated hd₀, hpatched hd₀, howners hd₀, hmanagers hd₀, hmembers hd₀, hremoved hd₀]
      rfl
    · have hplaced := placedAs_reached hg hplaced₁ hplaced₂ hplaced₃
      refine ⟨_, h, hheaded.name, hheaded.description, ?_, ms₃, ?_, rfl⟩
      · rw [hheaded.settings]
      · rw [← hheaded.members]
        exact hplaced

theorem reconciled_of_handled (hd₀ : Faultless d₀) {before after : DirectoryEntry}
    (h : Handled d₀ g before after) : Reconciled g before after := by
  obtain ⟨hname, hdescription, hsettings, placed, hplaced, hmembers⟩ := h
  rw [List.filter_eq_self.mpr fun p _ => hd₀.reaches _ p.2] at hplaced
  rw [filter_releases_and_goes hd₀] at hmembers
  refine ⟨?_, ?_, ?_, placed, hplaced, hmembers⟩
  · simpa [hd₀.failsGroup] using hname
  · simpa [hd₀.failsGroup] using hdescription
  · rw [hsettings, settingsAfter_of_faultless hd₀]

end Reconcile

end GroupKeeper
