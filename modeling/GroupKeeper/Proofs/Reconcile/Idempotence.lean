import GroupKeeper.Proofs.Reconcile.Convergence

/-! A second run finds nothing to do. What a confirmed run leaves passes the test of every step, so
that no step of the next run makes a changing call. -/

namespace GroupKeeper.Reconcile

open Directory Program

variable {d : Directory} {g : GroupSpec} {gs : List GroupSpec} {e : DirectoryEntry}

/-- A group in which no step finds anything to do. -/
structure AtRest (g : GroupSpec) (e : DirectoryEntry) : Prop where
  named : differs g e.group = false
  settings : (e.settings.desired g.settings).1 = e.settings
  members : WantedMembers g e.members

/-- A group that was reconciled is at rest, whatever it was like before. -/
theorem atRest_of_settled {before : DirectoryEntry} (h : Settled g before e) : AtRest g e := by
  refine ⟨?_, ?_, h.members⟩
  · rw [differs, h.name, h.description]
    cases hname : g.name.isEmpty <;> cases hdescription : g.description.isEmpty <;> simp
  · rw [h.settings, Settings.desired_desired]

/-! ## Steps at rest -/

theorem AtRest.quiet_createOrUpdateGroup (h : AtRest g e) (hd : Faultless d)
    (hfind : d.find? g.emailId = some e) (confirm : Bool) :
    Quiet client (createOrUpdateGroup (mode confirm) g) d (.ok ()) := by
  rw [createOrUpdateGroup, emit_bind, ask_bind]
  refine .log _ (quiet_read rfl (getGroup_of_find (hd.failsGroup _) hfind) ?_)
  simp only [h.named]
  exact .pure _

theorem AtRest.quiet_updateSettings (h : AtRest g e) (hd : Faultless d)
    (hfind : d.find? g.emailId = some e) (confirm : Bool) :
    Quiet client (updateSettings (mode confirm) g) d (.ok ()) := by
  have hwanted := h.settings
  rw [updateSettings, emit_bind, ask_bind]
  refine .log _ (quiet_read rfl (getSettings_of_find (hd.failsGroup _) hfind) ?_)
  dsimp only
  revert hwanted
  cases e.settings.desired g.settings with
  | mk wanted unknown =>
      intro hwanted
      refine (quiet_warnUnknown _ _).bind ?_
      rw [if_pos hwanted]
      exact .log _ (.pure _)

theorem AtRest.quiet_addOrUpdateMembers (h : AtRest g e) (hfind : d.find? g.emailId = some e)
    (confirm : Bool) (role : Role) :
    Quiet client (addOrUpdateMembers (mode confirm) g role (g.emails role)) d .none := by
  refine .log _ ((quiet_listMembers_of_find hfind confirm .addingMembers).bind (quiet_gather ?_))
  intro email hemail
  obtain ⟨m, hfirst, hrole⟩ := h.members.roles role email hemail
  rw [mailbox?] at hfirst
  rw [placeMember, hfirst]
  simp only [hrole, if_true]
  exact .pure _

/-- Where everybody that may go is to be kept, nobody is removed. -/
theorem quiet_removeUnlisted (hfind : d.find? g.emailId = some e) (confirm : Bool)
    {keep : List String} {removable : Member → Bool}
    (hkeep : ∀ m ∈ e.members, removable m = true → Email.contains keep m.email = true) :
    Quiet client (removeUnlisted (mode confirm) g keep removable) d .none := by
  refine (quiet_listMembers_of_find hfind confirm .removingMembers).bind (quiet_gather ?_)
  intro m hm
  obtain ⟨hmem, hm⟩ := List.mem_filter.mp hm
  simp only [Bool.and_eq_true, Bool.not_eq_true'] at hm
  simp [hkeep m hmem hm.1] at hm

theorem AtRest.quiet_removeOthers (h : AtRest g e) (hfind : d.find? g.emailId = some e)
    (confirm : Bool) : Quiet client (removeOthers (mode confirm) g) d .none := by
  rw [removeOthers, GroupSpec.reconcilesMembers]
  by_cases hmode : g.settings.get? reconcileMembersKey = some "true"
  · rw [if_pos (by simpa using hmode)]
    exact .log _ (quiet_removeUnlisted hfind confirm fun m hm _ => h.members.onlyListed hmode m hm)
  · rw [if_neg (by simpa using hmode)]
    refine .log _ (quiet_removeUnlisted hfind confirm fun m hm hrole => ?_)
    exact h.members.onlyPrivileged hmode m hm (by simpa using hrole)

/-- A group at rest is passed without a changing call. -/
theorem AtRest.quiet_reconcileGroup (h : AtRest g e) (hnamed : g.emailId ≠ "") (hd : Faultless d)
    (hfind : d.find? g.emailId = some e) (confirm : Bool) :
    Quiet client (reconcileGroup (mode confirm) g) d .none := by
  have hempty : ¬ g.emailId.isEmpty = true := by simpa using hnamed
  rw [reconcileGroup, if_neg hempty]
  refine (h.quiet_createOrUpdateGroup hd hfind confirm).bind ?_
  refine (h.quiet_updateSettings hd hfind confirm).bind ?_
  refine (h.quiet_addOrUpdateMembers hfind confirm .owner).bind ?_
  refine (h.quiet_addOrUpdateMembers hfind confirm .manager).bind ?_
  refine (h.quiet_addOrUpdateMembers hfind confirm .member).bind ?_
  exact (h.quiet_removeOthers hfind confirm).bind (.pure _)

/-! ## Whole runs at rest -/

/-- A directory in which no run for a list of groups finds anything to do. -/
structure Resting (gs : List GroupSpec) (d : Directory) : Prop where
  healthy : Healthy d
  groups : ∀ g ∈ gs, ∃ e, d.find? g.emailId = some e ∧ AtRest g e
  wanted : ∀ k e, d.groups.get? k = some e → ∃ g ∈ gs, Email.equals g.emailId e.group.email = true

theorem Converged.resting {before : Directory} (h : Converged gs before d) (hd : Healthy d) :
    Resting gs d := by
  refine ⟨hd, fun g hg => ?_, h.wanted⟩
  obtain ⟨e, hfind, hsettled⟩ := h.settled g hg
  exact ⟨e, hfind, atRest_of_settled hsettled⟩

theorem Resting.quiet_jobs (h : Resting gs d) (hgs : Distinct gs) (confirm : Bool) :
    ∀ p ∈ jobs (mode confirm) gs, Quiet client p d .none := by
  intro p hp
  rw [jobs_of_distinct _ hgs] at hp
  obtain ⟨g, hg, rfl⟩ := List.mem_map.mp hp
  obtain ⟨e, hfind, hrest⟩ := h.groups g hg
  exact hrest.quiet_reconcileGroup (hgs.members g hg).named h.healthy.faultless hfind confirm

theorem Resting.quiet_deleteOrphans (h : Resting gs d) (confirm : Bool) :
    Quiet client (deleteOrphans (mode confirm) gs) d .none := by
  have hreply : (client .listGroups d).1 = .ok (listing d) := by
    rw [client_listGroups h.healthy.faultless.list]
  rw [deleteOrphans, ask_bind]
  refine quiet_read rfl hreply (quiet_gather fun x hx => ?_)
  obtain ⟨hlisted, hx⟩ := List.mem_filter.mp hx
  obtain ⟨e, hget, rfl⟩ := (mem_listing_iff h.healthy.wellFormed).mp hlisted
  have hwanted := List.any_eq_true.mpr (h.wanted _ e hget)
  simp [hwanted] at hx

/-- After a confirmed run of a checked roster that has ended, the same run again succeeds, leaves
the directory exactly as it was, and makes no call that is meant to change anything, again however
many workers there are and however long a lookup takes. -/
theorem reconcileTimed_idempotent {d : Directory} (hd : Reachable d) (hfaultless : Faultless d)
    {c : Roster} (hc : Validation.validate c = .ok ()) {workers delay : Nat}
    {deadline : Option Nat} {after : Directory}
    (hfirst : ∃ fs events, reconcileTimed client delay deadline (mode true) workers c.groups d =
      ⟨some fs, after, events⟩)
    (workers' delay' : Nat) (deadline' : Option Nat) :
    (deadline' = none →
      (reconcileTimed client delay' deadline' (mode true) workers' c.groups after).value.isSome) ∧
    (∀ fs, (reconcileTimed client delay' deadline' (mode true) workers' c.groups after).value =
      some fs → fs.result = .ok ()) ∧
    (reconcileTimed client delay' deadline' (mode true) workers' c.groups after).state = after ∧
    Untouched after (reconcileTimed client.recorded delay' deadline' (mode true) workers' c.groups
      (after, [])).state := by
  obtain ⟨fs, events, hfirst⟩ := hfirst
  have hgs := Validation.distinct_of_validate hc
  have hcompleted := reconcileTimed_completed (congrArg Outcome.value hfirst)
  have hafter : after = ((reconcileGroups (mode true) workers c.groups).run client d).state := by
    rw [← hcompleted.1, hfirst]
  have hhealthy : Healthy after := hafter ▸ (hd.healthy hfaultless).run _
  have hresting : Resting c.groups after :=
    (hafter ▸ (run_reconcileGroups hgs (hd.healthy hfaultless) workers).2).resting hhealthy
  have hjobs := hresting.quiet_jobs hgs true
  have horphans := hresting.quiet_deleteOrphans true
  refine ⟨?_, ?_, ?_, ?_⟩
  · rintro rfl
    exact isSome_reconcileTimed
  · exact fun fs hfs => result_reconcileTimed hfs (run_reconcileGroups hgs hhealthy workers').1
  · refine reconcileTimed_invariant (I := (· = after)) (fun p hp t ht => ?_) (fun t ht => ?_) rfl
    · exact ht ▸ (hjobs p hp).state
    · exact ht ▸ horphans.state
  · refine reconcileTimed_invariant (I := Untouched after) (fun p hp t ht => ?_) (fun t ht => ?_)
      (untouched_nil after)
    · exact (hjobs p hp).recorded ht
    · exact horphans.recorded ht

/-- After two workers have reconciled the sample, five workers find nothing to do. -/
theorem sample_idempotent : ∃ fs after events,
    reconcileTimed client 3 none (mode true) 2 sampleRoster.groups sampleDirectory =
      ⟨some fs, after, events⟩ ∧
    (reconcileTimed client 3 none (mode true) 5 sampleRoster.groups after).state = after ∧
    Untouched after (reconcileTimed client.recorded 3 none (mode true) 5 sampleRoster.groups
      (after, [])).state := by
  cases hfirst : reconcileTimed client 3 none (mode true) 2 sampleRoster.groups sampleDirectory with
  | mk value after events =>
      have hsome : value.isSome := by
        have hends : (reconcileTimed client 3 none (mode true) 2 sampleRoster.groups
          sampleDirectory).value.isSome := isSome_reconcileTimed
        rwa [hfirst] at hends
      obtain ⟨fs, rfl⟩ := Option.isSome_iff_exists.mp hsome
      obtain ⟨-, -, hstate, hcalls⟩ := reconcileTimed_idempotent reachable_sampleDirectory
        faultless_sampleDirectory validate_sampleRoster ⟨fs, events, hfirst⟩ 5 3 none
      exact ⟨fs, after, events, rfl, hstate, hcalls⟩

end GroupKeeper.Reconcile
