import GroupKeeper.Proofs.Reconcile.Convergence

/-! Owners and managers after a run. Unless members are reconciled, only listed ones are left. If
members are reconciled, the removal goes by addresses alone, so that an owner or manager stays who
has the mailbox of a listed member without being the first to have it. -/

namespace GroupKeeper.Reconcile

open Directory Program

/-- Every owner or manager among some members has the mailbox of a listed owner or manager. -/
def OnlyListedPrivileged (g : GroupSpec) (ms : List Member) : Prop :=
  ∀ m ∈ ms, m.role ≠ .member → Email.contains g.ownersAndManagers m.email = true

/-- An owner or manager has the mailbox of a listed member, but is not the first to have it. -/
def HiddenPrivilege (g : GroupSpec) (ms : List Member) : Prop :=
  ∃ m ∈ ms, m.role ≠ .member ∧
    ∃ a ∈ g.members, Email.equals m.email a = true ∧ mailbox? ms a ≠ some m

section Privileges

variable {g : GroupSpec} {ms placed : List Member} {m : Member} {a : String}

instance : Decidable (HiddenPrivilege g ms) :=
  inferInstanceAs (Decidable (∃ m ∈ ms, m.role ≠ .member ∧
    ∃ a ∈ g.members, Email.equals m.email a = true ∧ mailbox? ms a ≠ some m))

theorem givenRole?_of_hidden (hg : g.Distinct) (ha : a ∈ g.members)
    (hm : Email.equals m.email a = true) (hfirst : mailbox? ms a ≠ some m) :
    givenRole? (Validation.listed g) ms m = none := by
  cases hgiven : givenRole? (Validation.listed g) ms m with
  | none => rfl
  | some r =>
      obtain ⟨b, hb, hfirst'⟩ := givenRole?_eq_some hgiven
      have hmb := equals_of_mailbox? hfirst'
      rw [Email.equals_comm] at hmb
      have hpair := Email.eq_of_pairwise (apart_listed hg) hb (mem_listed (r := .member).mpr ha)
        (Email.equals_trans hmb hm)
      obtain ⟨-, rfl⟩ := Prod.mk.inj hpair
      exact absurd hfirst' hfirst

theorem contains_of_placedAs (h : PlacedAs (Validation.listed g) ms placed) (hm : m ∈ placed)
    (hrole : m.role ≠ .member) :
    Email.contains g.ownersAndManagers m.email = true ∨
      (m ∈ ms ∧ givenRole? (Validation.listed g) ms m = none) := by
  obtain ⟨new, rfl, hnew⟩ := h
  rcases List.mem_append.mp hm with hold | hadded
  · obtain ⟨x, hx, rfl⟩ := List.mem_map.mp hold
    cases hgiven : givenRole? (Validation.listed g) ms x with
    | none =>
        rw [withGivenRole_of_none hgiven]
        exact .inr ⟨hx, hgiven⟩
    | some r =>
        obtain ⟨a, ha, hfirst⟩ := givenRole?_eq_some hgiven
        have hx : Email.equals x.email a = true := equals_of_mailbox? hfirst
        rw [withGivenRole_of_some hgiven] at hrole
        exact .inl (contains_of_privileged (mem_listed.mp ha) hrole hx)
  · have hlisted := mem_listed.mp (mem_of_new hnew hadded).1
    exact .inl (contains_of_privileged hlisted hrole (Email.equals_refl _))

theorem onlyListedPrivileged_iff (hg : g.Distinct)
    (h : PlacedAs (Validation.listed g) ms placed) :
    OnlyListedPrivileged g (placed.filter fun m => !goes g m) ↔
      ¬ (g.reconcilesMembers = true ∧ HiddenPrivilege g ms) := by
  constructor
  · rintro honly ⟨hmode, m, hm, hrole, a, ha, hma, hfirst⟩
    have hkept : withGivenRole (Validation.listed g) ms m = m :=
      withGivenRole_of_none (givenRole?_of_hidden hg ha hma hfirst)
    have hplaced : m ∈ placed := by
      obtain ⟨new, rfl, -⟩ := h
      exact List.mem_append_left _ (List.mem_map.mpr ⟨m, hm, hkept⟩)
    have hstays : goes g m = false := by
      rw [goes, if_pos hmode, contains_of_mem_emails (r := .member) ha hma]
      rfl
    have hcontains := honly m (List.mem_filter.mpr ⟨hplaced, by rw [hstays, Bool.not_false]⟩) hrole
    rw [not_contains_of_member hg ha hma] at hcontains
    contradiction
  · intro hnone m hm hrole
    obtain ⟨hplaced, hstays⟩ := List.mem_filter.mp hm
    rcases contains_of_placedAs h hplaced hrole with hcontains | ⟨hold, hgiven⟩
    · exact hcontains
    · by_cases hmode : g.reconcilesMembers = true
      · have hlisted : Email.contains g.allMembers m.email = true := by
          simpa [goes, hmode] using hstays
        obtain ⟨a, ha, ham⟩ := List.any_eq_true.mp hlisted
        rcases List.mem_append.mp ha with hprivileged | hmember
        · exact List.any_eq_true.mpr ⟨a, hprivileged, ham⟩
        · rw [Email.equals_comm] at ham
          refine absurd ⟨hmode, m, hold, hrole, a, hmember, ham, ?_⟩ hnone
          exact givenRole?_eq_none_iff.mp hgiven (.member, a) (mem_listed.mpr hmember)
      · simpa [goes, hmode, hrole] using hstays

end Privileges

/-- From every directory that can be built without injected failures, a confirmed run of a checked
roster that ends has succeeded. Every group then has only listed owners and managers, unless its
members are reconciled and one of its owners or managers stood behind another member with the same
listed mailbox. -/
theorem reconcileTimed_onlyListedPrivileged_iff {d : Directory} (hd : Reachable d)
    (hfaultless : Faultless d) {c : Roster} (hc : Validation.validate c = .ok ())
    (workers delay : Nat) (deadline : Option Nat) :
    (deadline = none →
      (reconcileTimed client delay deadline (mode true) workers c.groups d).value.isSome) ∧
    ∀ fs, (reconcileTimed client delay deadline (mode true) workers c.groups d).value = some fs →
      fs.result = .ok () ∧ ∀ g ∈ c.groups, ∃ e,
        (reconcileTimed client delay deadline (mode true) workers c.groups d).state.find?
          g.emailId = some e ∧
        (OnlyListedPrivileged g e.members ↔ ¬ (g.reconcilesMembers = true ∧
          HiddenPrivilege g ((d.find? g.emailId).getD .blank).members)) := by
  have hgs := Validation.distinct_of_validate hc
  have hhealthy := hd.healthy hfaultless
  have hvalue := (run_reconcileGroups hgs hhealthy workers).1
  refine ⟨fun hnone => ?_, fun fs hfs => ⟨result_reconcileTimed hfs hvalue, fun g hg => ?_⟩⟩
  · subst hnone
    exact isSome_reconcileTimed
  · obtain ⟨e, hfind, hreconciled⟩ := reconciled_run_reconcileGroups hgs hhealthy workers g hg
    obtain ⟨placed, hplaced, hmembers⟩ := hreconciled.members
    refine ⟨e, ?_, ?_⟩
    · rw [(reconcileTimed_completed hfs).1]
      exact hfind
    · rw [hmembers]
      exact onlyListedPrivileged_iff (hgs.members g hg) hplaced

/-- In the sample, an owner who is not listed is removed. -/
theorem sample_onlyListedPrivileged : ∃ fs,
    (reconcileTimed client 3 none (mode true) 2 sampleRoster.groups sampleDirectory).value =
      some fs ∧ fs.result = .ok () ∧ ∀ g ∈ sampleRoster.groups, ∃ e,
        (reconcileTimed client 3 none (mode true) 2 sampleRoster.groups
          sampleDirectory).state.find? g.emailId = some e ∧ OnlyListedPrivileged g e.members := by
  obtain ⟨hends, hall⟩ := reconcileTimed_onlyListedPrivileged_iff reachable_sampleDirectory
    faultless_sampleDirectory validate_sampleRoster 2 3 none
  obtain ⟨fs, hfs⟩ := Option.isSome_iff_exists.mp (hends rfl)
  obtain ⟨hok, hgroups⟩ := hall fs hfs
  have hmodes : ∀ g ∈ sampleRoster.groups, g.reconcilesMembers = false := by decide +kernel
  refine ⟨fs, hfs, hok, fun g hg => ?_⟩
  obtain ⟨e, hfind, hiff⟩ := hgroups g hg
  exact ⟨e, hfind, hiff.mpr fun h => by simp [hmodes g hg] at h⟩

/-! ## An owner behind a member -/

/-- A group whose members are reconciled, with one listed member. -/
def memberRoster : Roster := ⟨[
  { GroupSpec.blank with
    emailId := "team@x.io", settings := .ofList [(reconcileMembersKey, "true")],
    members := ["annlee@x.io"] }]⟩

/-- The group with the listed member and, behind it, an owner with the same mailbox. -/
def aliasDirectory : Directory :=
  (((empty.withGroup "team@x.io" "" "").withMember "team@x.io" "annlee@x.io" .member).2.withMember
    "team@x.io" "ann.lee@x.io" .owner).2

theorem hiddenPrivilege_alias : ∀ g ∈ memberRoster.groups, g.reconcilesMembers = true ∧
    HiddenPrivilege g ((aliasDirectory.find? g.emailId).getD .blank).members := by
  decide +kernel

/-- The owner is neither demoted nor removed, although only mere members are listed. -/
theorem alias_not_onlyListedPrivileged :
    Reachable aliasDirectory ∧ Faultless aliasDirectory ∧
    Validation.validate memberRoster = .ok () ∧ ∃ fs,
      (reconcileTimed client 0 none (mode true) 5 memberRoster.groups aliasDirectory).value =
        some fs ∧ fs.result = .ok () ∧ ∃ g ∈ memberRoster.groups, ∃ e,
          (reconcileTimed client 0 none (mode true) 5 memberRoster.groups
            aliasDirectory).state.find? g.emailId = some e ∧
          ¬ OnlyListedPrivileged g e.members := by
  have hreachable : Reachable aliasDirectory :=
    .withMember _ _ _ (.withMember _ _ _ (.withGroup _ _ _ .empty))
  have hfaultless : Faultless aliasDirectory := ⟨rfl, rfl, rfl⟩
  have hvalid : Validation.validate memberRoster = .ok () := rfl
  have hgs := Validation.distinct_of_validate hvalid
  have hhealthy := hreachable.healthy hfaultless
  have hvalue := (run_reconcileGroups hgs hhealthy 5).1
  have hends : (reconcileTimed client 0 none (mode true) 5 memberRoster.groups
    aliasDirectory).value.isSome := isSome_reconcileTimed
  obtain ⟨fs, hfs⟩ := Option.isSome_iff_exists.mp hends
  have hg : memberRoster.groups.head (by decide) ∈ memberRoster.groups := List.head_mem _
  obtain ⟨e, hfind, hreconciled⟩ := reconciled_run_reconcileGroups hgs hhealthy 5 _ hg
  obtain ⟨placed, hplaced, hmembers⟩ := hreconciled.members
  refine ⟨hreachable, hfaultless, hvalid, fs, hfs, result_reconcileTimed hfs hvalue, _, hg, e, ?_,
    ?_⟩
  · rw [(reconcileTimed_completed hfs).1]
    exact hfind
  · rw [hmembers, onlyListedPrivileged_iff (hgs.members _ hg) hplaced, not_not]
    exact hiddenPrivilege_alias _ hg

end GroupKeeper.Reconcile
