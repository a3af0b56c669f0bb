import GroupKeeper.Proofs.Reconcile.DryRun
import GroupKeeper.Proofs.Reconcile.Plan

/-! What a run announces for one group that exists, and what it does to it. A dry run decides whom
to remove on the members as they are. A confirmed run decides it once the listed addresses have been
placed, so that a member who has stepped down is not removed any more. -/

namespace GroupKeeper.Reconcile

open Directory Program

/-! ## The plan for a group -/

/-- The plan for everything but removals. -/
def upkeep (g : GroupSpec) (e : DirectoryEntry) : List Planned :=
  groupPlan g e.group ++ settingsPlan g e.settings ++
    Role.all.flatMap fun role => membersPlan g role e.members

/-- The members that go once the listed addresses have been placed. -/
def leavers (g : GroupSpec) (ms : List Member) : List Member :=
  ms.filter fun m => goes g (withGivenRole (Validation.listed g) ms m)

/-- What a dry run announces for a group. -/
def forecast (g : GroupSpec) (e : DirectoryEntry) : List Planned :=
  upkeep g e ++ (e.members.filter (goes g)).map (removal g)

/-- What a confirmed run does to a group. -/
def deeds (g : GroupSpec) (e : DirectoryEntry) : List Planned :=
  upkeep g e ++ (leavers g e.members).map (removal g)

/-- The plan for the group itself, which is created where it is missing. -/
def headPlan (g : GroupSpec) : Option DirectoryEntry → List Planned
  | none => [creation g]
  | some e => groupPlan g e.group

/-- What a confirmed run does for a group that may be missing. -/
def allDeeds (g : GroupSpec) (before : Option DirectoryEntry) : List Planned :=
  headPlan g before ++ settingsPlan g (before.getD .blank).settings ++
    (Role.all.flatMap fun role => membersPlan g role (before.getD .blank).members) ++
    (leavers g (before.getD .blank).members).map (removal g)

section Group

variable {g : GroupSpec} {e : DirectoryEntry} {d : Directory} {ms ms' placed : List Member}

theorem membersPlan_congr {role : Role}
    (h : ∀ a ∈ g.emails role, mailbox? ms' a = mailbox? ms a) :
    membersPlan g role ms' = membersPlan g role ms := by
  refine List.flatMap_congr fun a ha => ?_
  rw [placementPlan, placementPlan, h a ha]

theorem givenRole?_eq_none_of_goes {m : Member}
    (h : goes g (withGivenRole (Validation.listed g) ms m) = true) :
    givenRole? (Validation.listed g) ms m = none := by
  cases hgiven : givenRole? (Validation.listed g) ms m with
  | none => rfl
  | some r =>
      obtain ⟨a, ha, hfirst⟩ := givenRole?_eq_some hgiven
      have hm : Email.equals m.email a = true := equals_of_mailbox? hfirst
      rw [withGivenRole_of_some hgiven,
        goes_of_listed (m := { m with role := r }) (mem_listed.mp ha) hm rfl] at h
      contradiction

theorem filter_goes_of_placedAs (h : PlacedAs (Validation.listed g) ms placed) :
    placed.filter (goes g) = leavers g ms := by
  obtain ⟨new, rfl, hnew⟩ := h
  have hstay : new.filter (goes g) = [] := by
    rw [List.filter_eq_nil_iff]
    intro m hm hgoes
    have hlisted := mem_listed.mp (mem_of_new hnew hm).1
    simp [goes_of_listed hlisted (Email.equals_refl _) rfl] at hgoes
  have hsame : ∀ m ∈ leavers g ms, withGivenRole (Validation.listed g) ms m = m := fun m hm =>
    withGivenRole_of_none (givenRole?_eq_none_of_goes (List.mem_filter.mp hm).2)
  rw [List.filter_append, hstay, List.append_nil, List.filter_map]
  exact (List.map_congr_left hsame).trans (List.map_id' _)

theorem listMembers_of_find (hfind : d.find? g.emailId = some e) :
    (client (.listMembers g.emailId) d).1 = .ok e.members := by
  simp [client, Directory.listMembers, hfind]

/-- A dry run decides everything on the members as they are. -/
theorem effects_dry_reconcileGroup (hd : Faultless d) (hnamed : g.emailId ≠ "")
    (hfind : d.find? g.emailId = some e) :
    (reconcileGroup (mode false) g).effects client d =
      (forecast g e).map (·.effect (mode false)) := by
  have hempty : ¬ g.emailId.isEmpty = true := by simpa using hnamed
  have hlist := listMembers_of_find hfind
  rw [reconcileGroup, if_neg hempty, (quiet_dry_createOrUpdateGroup hd g).effects_bind,
    (quiet_dry_updateSettings hd g).effects_bind,
    (quiet_dry_addOrUpdateMembers g .owner _ d).effects_bind,
    (quiet_dry_addOrUpdateMembers g .manager _ d).effects_bind,
    (quiet_dry_addOrUpdateMembers g .member _ d).effects_bind,
    (quiet_dry_removeOthers g d).effects_bind,
    effects_createOrUpdateGroup, getGroup_of_find (hd.failsGroup _) hfind,
    effects_updateSettings, getSettings_of_find (hd.failsGroup _) hfind,
    effects_addOrUpdateMembers, effects_addOrUpdateMembers, effects_addOrUpdateMembers,
    effects_removeOthers, hlist, effects_pure]
  simp [forecast, upkeep, Role.all, lookupPlan, planAfter, membersPlan]

/-- Where the group under an address satisfies `P`, a program has the effects `es`. -/
def Effects {α : Type} (a : String) (P : Option DirectoryEntry → Prop) (p : Program α)
    (es : List (Change ⊕ Call)) : Prop :=
  ∀ d, Healthy d → P (d.find? a) → p.effects client d = es

section Effects

variable {α β : Type} {a : String} {P Q : Option DirectoryEntry → Prop}

theorem Effects.bind {p : Program α} {f : α → Program β} {v : α} {es es' : List (Change ⊕ Call)}
    (hp : Effects a P p es) (hstate : Ensures a P p v Q) (hf : Effects a Q (f v) es') :
    Effects a P (p >>= f) (es ++ es') := by
  intro d hd hP
  obtain ⟨hvalue, hQ⟩ := hstate d hd hP
  rw [effects_bind, hp d hd hP, hvalue, hf _ (hd.run p) hQ]

theorem Effects.of_exists {ι : Type} {entry : ι → DirectoryEntry} {A : ι → Prop} {p : Program α}
    {es : List (Change ⊕ Call)} (h : ∀ i, A i → Effects a (· = some (entry i)) p es) :
    Effects a (fun o => ∃ i, o = some (entry i) ∧ A i) p es := by
  rintro d hd ⟨i, hfind, hi⟩
  exact h i hi d hd hfind

end Effects

/-- A confirmed run decides whom to place on lists in which the mailboxes in question are as they
were at first, and whom to remove on the list in which everybody is placed. -/
theorem effects_reconcileGroup (hg : g.Distinct) (hd : Healthy d) :
    (reconcileGroup (mode true) g).effects client d =
      (allDeeds g (d.find? g.emailId)).map (·.effect (mode true)) := by
  have hempty : ¬ g.emailId.isEmpty = true := by simpa using hg.named
  let view : List Planned → List (Change ⊕ Call) := List.map (·.effect (mode true))
  have hplace : ∀ {e : DirectoryEntry} (role : Role), Effects g.emailId (· = some e)
      (addOrUpdateMembers (mode true) g role (g.emails role))
      (view (membersPlan g role e.members)) := by
    intro e role d _ hfind
    rw [effects_addOrUpdateMembers, listMembers_of_find hfind]
    rfl
  generalize hbefore : d.find? g.emailId = before
  have hall : Effects g.emailId (· = before) (reconcileGroup (mode true) g)
      (view (headPlan g before) ++ (view (settingsPlan g (before.getD .blank).settings) ++
        (view (membersPlan g .owner (before.getD .blank).members) ++
          (view (membersPlan g .manager (before.getD .blank).members) ++
            (view (membersPlan g .member (before.getD .blank).members) ++
              (view ((leavers g (before.getD .blank).members).map (removal g)) ++ [])))))) := by
    rw [reconcileGroup, if_neg hempty]
    refine Effects.bind ?_ (ensures_createOrUpdateGroup before) (.of_exists fun e' hnamed => ?_)
    · intro d hd hfind
      rw [effects_createOrUpdateGroup]
      cases before with
      | none =>
          rw [getGroup_of_missing (hd.faultless.failsGroup _) hfind, lookupPlan,
            mode_isMissing, if_pos (isMissing_groupNotFound g.emailId), headPlan]
      | some e =>
          rw [getGroup_of_find (hd.faultless.failsGroup _) hfind, lookupPlan, headPlan]
    rw [← hnamed.settings, ← hnamed.members]
    refine Effects.bind ?_ ensures_updateSettings ?_
    · intro d hd hfind
      rw [effects_updateSettings, getSettings_of_find (hd.faultless.failsGroup _) hfind, planAfter]
    -- The plan for a role is the same on the members as they were before the earlier roles.
    refine (hplace .owner).bind (ensures_addOrUpdateMembers (hg.within .owner))
      (.of_exists fun ms₁ howners => ?_)
    rw [← membersPlan_congr (mailbox?_of_placedAs hg (by decide) (List.Subset.refl _) howners)]
    refine (hplace .manager).bind (ensures_addOrUpdateMembers (hg.within .manager))
      (.of_exists fun ms₂ hmanagers => ?_)
    rw [← membersPlan_congr (mailbox?_of_placedAs hg (by decide) (List.Subset.refl _) howners),
      ← membersPlan_congr (mailbox?_of_placedAs hg (by decide) (List.Subset.refl _) hmanagers)]
    refine (hplace .member).bind (ensures_addOrUpdateMembers (hg.within .member))
      (.of_exists fun ms₃ hmembers => ?_)
    have hplaced := placedAs_listed hg howners hmanagers hmembers
    rw [← filter_goes_of_placedAs hplaced]
    refine Effects.bind ?_ ensures_removeOthers fun _ _ _ => rfl
    intro d _ hfind
    rw [effects_removeOthers, listMembers_of_find hfind, planAfter]
  rw [hall d hd hbefore]
  simp [allDeeds, Role.all, view]

theorem effects_confirmed_reconcileGroup (hg : g.Distinct) (hd : Healthy d)
    (hfind : d.find? g.emailId = some e) :
    (reconcileGroup (mode true) g).effects client d = (deeds g e).map (·.effect (mode true)) := by
  rw [effects_reconcileGroup hg hd, hfind]
  rfl

/-! ## What is announced and not done -/

/-- An owner or manager is the first to have the mailbox of a listed member, and only unlisted
owners and managers are removed. -/
def StepsDown (g : GroupSpec) (ms : List Member) : Prop :=
  g.reconcilesMembers = false ∧
    ∃ a ∈ g.members, ∃ m, mailbox? ms a = some m ∧ m.role ≠ .member

theorem stepsDown_iff : StepsDown g ms ↔ g.reconcilesMembers = false ∧
    ∃ a ∈ g.members, ∃ m ∈ ms, mailbox? ms a = some m ∧ m.role ≠ .member := by
  refine and_congr_right fun _ => exists_congr fun a => and_congr_right fun _ => ?_
  exact exists_congr fun m =>
    ⟨fun h => ⟨mem_of_mailbox? h.1, h⟩, fun h => h.2⟩

instance : Decidable (StepsDown g ms) :=
  decidable_of_iff _ stepsDown_iff.symm

theorem leavers_sublist : (leavers g ms).Sublist (ms.filter (goes g)) := by
  have hsub : leavers g ms = (ms.filter (goes g)).filter fun m =>
      goes g (withGivenRole (Validation.listed g) ms m) := by
    rw [List.filter_filter]
    refine List.filter_congr fun m _ => ?_
    cases hgoes : goes g (withGivenRole (Validation.listed g) ms m) with
    | false => rfl
    | true =>
        rw [withGivenRole_of_none (givenRole?_eq_none_of_goes hgoes)] at hgoes
        simp [hgoes]
  rw [hsub]
  exact List.filter_sublist

/-- Somebody is announced to go and stays exactly if an owner or manager steps down. -/
theorem leavers_eq_iff (hg : g.Distinct) :
    leavers g ms = ms.filter (goes g) ↔ ¬ StepsDown g ms := by
  constructor
  · rintro heq ⟨hmode, a, ha, m, hfirst, hrole⟩
    have hm := equals_of_mailbox? hfirst
    have hgoes : goes g m = true := by
      rw [goes_eq_of_not_reconciles hmode]
      simp [hrole, not_contains_of_member hg ha hm]
    have hleaves : m ∈ leavers g ms :=
      heq ▸ List.mem_filter.mpr ⟨mem_of_mailbox? hfirst, hgoes⟩
    have hnone := givenRole?_eq_none_of_goes (List.mem_filter.mp hleaves).2
    have hplaced : ((.member, a) : Role × String) ∈ Validation.listed g := mem_listed.mpr ha
    simp [givenRole?_of_mailbox (apart_listed hg) hplaced hfirst] at hnone
  · intro hnot
    refine List.filter_congr fun m hm => ?_
    cases hgiven : givenRole? (Validation.listed g) ms m with
    | none => rw [withGivenRole_of_none hgiven]
    | some r =>
        obtain ⟨a, ha, hfirst⟩ := givenRole?_eq_some hgiven
        have hma : Email.equals m.email a = true := equals_of_mailbox? hfirst
        have ha := mem_listed.mp ha
        rw [withGivenRole_of_some hgiven, goes_of_listed (m := { m with role := r }) ha hma rfl]
        cases hmode : g.reconcilesMembers with
        | true => simp [goes_eq_of_reconciles hmode, contains_of_mem_emails ha hma]
        | false =>
            rw [goes_eq_of_not_reconciles hmode]
            by_cases hr : r = .member
            · subst hr
              have hrole : m.role = .member := by
                by_contra hrole
                exact hnot ⟨hmode, a, ha, m, hfirst, hrole⟩
              simp [hrole]
            · simp [contains_of_privileged ha hr hma]

theorem deeds_sublist : (deeds g e).Sublist (forecast g e) :=
  (List.Sublist.refl _).append (leavers_sublist.map _)

theorem deeds_eq_iff (hg : g.Distinct) : deeds g e = forecast g e ↔ ¬ StepsDown g e.members := by
  rw [← leavers_eq_iff hg, deeds, forecast, List.append_right_inj]
  constructor
  · intro h
    refine leavers_sublist.eq_of_length ?_
    simpa using congrArg List.length h
  · intro h
    rw [h]

end Group

end GroupKeeper.Reconcile
