import GroupKeeper.Proofs.Reconcile.Convergence
import GroupKeeper.Proofs.Rest.Service

/-! Runs without confirmation. Whatever the answers are, none of their calls is meant to change
anything. Over a directory that was not told to fail a dry run of a checked roster succeeds, also
where groups are wanted that do not exist yet. -/

namespace GroupKeeper.Reconcile

open Directory Program

/-! ## Operations -/

/-- The operations on groups and members, on settings, and on rosters. -/
inductive Operation (mode : Mode) : (α : Type) → Program α → Prop
  | createOrUpdateGroup (g : GroupSpec) : Operation mode _ (createOrUpdateGroup mode g)
  | addOrUpdateMembers (g : GroupSpec) (role : Role) (emails : List String) :
      Operation mode _ (addOrUpdateMembers mode g role emails)
  | removeOwnersOrManagers (g : GroupSpec) (keep : List String) :
      Operation mode _ (removeOwnersOrManagers mode g keep)
  | removeMembers (g : GroupSpec) (keep : List String) :
      Operation mode _ (removeMembers mode g keep)
  | deleteOrphans (wanted : List GroupSpec) : Operation mode _ (deleteOrphans mode wanted)
  | listGroups : Operation mode _ (ask .listGroups)
  | listMembers (key : String) : Operation mode _ (ask (.listMembers key))
  | updateSettings (g : GroupSpec) : Operation mode _ (updateSettings mode g)
  | getSettings (key : String) : Operation mode _ (ask (.getSettings key))
  | reconcileGroup (g : GroupSpec) : Operation mode _ (reconcileGroup mode g)
  | reconcileGroups (workers : Nat) (gs : List GroupSpec) :
      Operation mode _ (reconcileGroups mode workers gs)

/-- An operation makes changing calls only if changes are confirmed. -/
theorem Operation.allCalls {mode : Mode} {α : Type} {p : Program α} (h : Operation mode α p) :
    p.AllCalls (Allowed mode) := by
  cases h with
  | createOrUpdateGroup g => exact AllCalls.allowed (allCalls_createOrUpdateGroup mode g)
  | addOrUpdateMembers g role emails =>
      exact AllCalls.allowed (allCalls_addOrUpdateMembers mode g role emails)
  | removeOwnersOrManagers g keep =>
      exact AllCalls.allowed (allCalls_removeOwnersOrManagers mode g keep)
  | removeMembers g keep => exact AllCalls.allowed (allCalls_removeMembers mode g keep)
  | deleteOrphans wanted => exact allCalls_deleteOrphans mode wanted
  | listGroups | listMembers | getSettings => exact ⟨allowed_of_read rfl, fun _ => trivial⟩
  | updateSettings g => exact AllCalls.allowed (allCalls_updateSettings mode g)
  | reconcileGroup g => exact AllCalls.allowed (allCalls_reconcileGroup mode g)
  | reconcileGroups workers gs => exact allCalls_reconcileGroups mode workers gs

/-- What reading calls keep, every operation keeps without confirmation. -/
theorem Operation.invariant {mode : Mode} (hdry : mode.confirm = false) {α σ : Type}
    {p : Program α} (h : Operation mode α p) {client : Client σ} {I : σ → Prop}
    (hread : ∀ c s, c.isMutating = false → I s → I (client c s).2) {s : σ} (hs : I s) :
    I (p.run client s).state :=
  h.allCalls.run_invariant (fun c s hc => hread c s (hc hdry)) hs

/-- What reading calls keep, a run of several groups at a time keeps without confirmation. -/
theorem reconcileTimed_dry_invariant {mode : Mode} (hdry : mode.confirm = false) {σ : Type}
    {client : Client σ} {I : σ → Prop}
    (hread : ∀ c s, c.isMutating = false → I s → I (client c s).2) (delay : Nat)
    (deadline : Option Nat) (workers : Nat) (gs : List GroupSpec) {s : σ} (hs : I s) :
    I (reconcileTimed client delay deadline mode workers gs s).state := by
  refine reconcileTimed_invariant (fun p hp t ht => ?_) (fun t ht => ?_) hs
  · exact (allCalls_jobs mode gs p hp).run_invariant (fun c s hc => hread c s (hc hdry)) ht
  · exact Operation.invariant hdry (.deleteOrphans gs) hread ht

/-! ## Steps over a directory -/

section Steps

variable {d : Directory} {g : GroupSpec}

theorem quiet_dry_createOrUpdateGroup (hd : Faultless d) (g : GroupSpec) :
    Quiet client (createOrUpdateGroup (mode false) g) d (.ok ()) := by
  rw [createOrUpdateGroup, emit_bind, ask_bind]
  refine .log _ ?_
  cases hfind : d.find? g.emailId with
  | none =>
      refine quiet_read rfl (getGroup_of_missing (hd.failsGroup _) hfind) ?_
      simp only [mode_isMissing, isMissing_groupNotFound, mode_confirm, if_true]
      exact .log _ (.pure _)
  | some e =>
      refine quiet_read rfl (getGroup_of_find (hd.failsGroup _) hfind) ?_
      dsimp only
      split
      · exact .log _ (.pure _)
      · exact .pure _

theorem quiet_dry_updateSettings (hd : Faultless d) (g : GroupSpec) :
    Quiet client (updateSettings (mode false) g) d (.ok ()) := by
  rw [updateSettings, emit_bind, ask_bind]
  refine .log _ ?_
  cases hfind : d.find? g.emailId with
  | none =>
      refine quiet_read rfl (getSettings_of_missing (hd.failsGroup _) hfind) ?_
      simp only [mode_isMissing, isMissing_groupNotFound, if_true]
      exact .log _ (.pure _)
  | some e =>
      refine quiet_read rfl (getSettings_of_find (hd.failsGroup _) hfind)
        ((quiet_warnUnknown _ _).bind ?_)
      split
      · exact .log _ (.pure _)
      · exact .log _ (.pure _)

theorem quiet_dry_placeMember (g : GroupSpec) (role : Role) (current : List Member)
    (email : String) (d : Directory) :
    Quiet client (placeMember (mode false) g role current email) d .none := by
  rw [placeMember]
  split
  · split
    · exact .pure _
    · exact .log _ (.pure _)
  · exact .log _ (.pure _)

theorem quiet_dry_addOrUpdateMembers (g : GroupSpec) (role : Role) (emails : List String)
    (d : Directory) : Quiet client (addOrUpdateMembers (mode false) g role emails) d .none := by
  refine .log _ ((quiet_listMembers false g .addingMembers d).bind ?_)
  cases d.find? g.emailId with
  | none => exact .pure _
  | some e => exact quiet_gather fun email _ => quiet_dry_placeMember g role e.members email d

theorem quiet_dry_removeUnlisted (g : GroupSpec) (keep : List String) (removable : Member → Bool)
    (d : Directory) : Quiet client (removeUnlisted (mode false) g keep removable) d .none := by
  refine (quiet_listMembers false g .removingMembers d).bind ?_
  cases d.find? g.emailId with
  | none => exact .pure _
  | some e => exact quiet_gather fun m _ => .log _ (.pure _)

theorem quiet_dry_removeOthers (g : GroupSpec) (d : Directory) :
    Quiet client (removeOthers (mode false) g) d .none := by
  rw [removeOthers]
  split
  · exact .log _ (quiet_dry_removeUnlisted g _ _ d)
  · exact .log _ (quiet_dry_removeUnlisted g _ _ d)

/-- A missing group is passed over by every step that reads it. -/
theorem quiet_dry_reconcileGroup (hd : Faultless d) (hnamed : g.emailId ≠ "") :
    Quiet client (reconcileGroup (mode false) g) d .none := by
  have hempty : ¬ g.emailId.isEmpty = true := by simpa using hnamed
  rw [reconcileGroup, if_neg hempty]
  refine (quiet_dry_createOrUpdateGroup hd g).bind ?_
  refine (quiet_dry_updateSettings hd g).bind ?_
  refine (quiet_dry_addOrUpdateMembers g .owner _ d).bind ?_
  refine (quiet_dry_addOrUpdateMembers g .manager _ d).bind ?_
  refine (quiet_dry_addOrUpdateMembers g .member _ d).bind ?_
  exact (quiet_dry_removeOthers g d).bind (.pure _)

theorem quiet_dry_deleteOrphans (hd : Faultless d) (wanted : List GroupSpec) :
    Quiet client (deleteOrphans (mode false) wanted) d .none := by
  have hreply : (client .listGroups d).1 = .ok (listing d) := by rw [client_listGroups hd.list]
  rw [deleteOrphans, ask_bind]
  exact quiet_read rfl hreply (quiet_gather fun x _ => .log _ (.pure _))

theorem quiet_dry_reconcileGroups (hd : Faultless d) {gs : List GroupSpec} (hgs : Distinct gs)
    (workers : Nat) : Quiet client (reconcileGroups (mode false) workers gs) d .none := by
  refine quiet_reconcileGroups _ (fun p hp => ?_) (quiet_dry_deleteOrphans hd gs)
  rw [jobs_of_distinct _ hgs] at hp
  obtain ⟨g, hg, rfl⟩ := List.mem_map.mp hp
  exact quiet_dry_reconcileGroup hd (hgs.members g hg).named

end Steps

/-! ## Dry runs -/

theorem recorded_dry {σ : Type} (client : Client σ) (s : σ) {mode : Mode}
    (hdry : mode.confirm = false) (delay : Nat) (deadline : Option Nat) (workers : Nat)
    (gs : List GroupSpec) :
    ∀ c ∈ (reconcileTimed client.recorded delay deadline mode workers gs (s, [])).state.2,
      c.isMutating = false := by
  refine reconcileTimed_dry_invariant (I := fun t : σ × List Call => ∀ c ∈ t.2,
    c.isMutating = false) hdry (fun c t hc ht => ?_) delay deadline workers gs (by simp)
  intro c' hc'
  rcases List.mem_append.mp hc' with hc' | hc'
  · exact ht c' hc'
  · rwa [List.mem_singleton.mp hc']

/-- Without confirmation, and whatever counts as missing: (1) no operation and no run of several
groups at a time makes a call that is meant to change anything, whoever answers; (2) over the web
services every request is one to read; (3) a directory in memory stays as it is; and (4) over a
directory that was not told to fail a run of a checked roster succeeds if it ends, as it does
without a deadline. -/
theorem dryRun_readOnly (isMissing : Failure → Bool) :
    (∀ (σ : Type) (client : Client σ) (s : σ),
      (∀ α p, Operation ⟨false, isMissing⟩ α p → ∀ c ∈ p.calls client s, c.isMutating = false) ∧
      ∀ delay deadline workers gs, ∀ c ∈ (reconcileTimed client.recorded delay deadline
        ⟨false, isMissing⟩ workers gs (s, [])).state.2, c.isMutating = false) ∧
    (∀ (service : Rest.Service) (n : Rest.Network),
      (∀ α p, Operation ⟨false, isMissing⟩ α p →
        Rest.SentOnly .get n (p.run service.client n).state) ∧
      ∀ delay deadline workers gs, Rest.SentOnly .get n (reconcileTimed service.client delay
        deadline ⟨false, isMissing⟩ workers gs n).state) ∧
    (∀ d : Directory,
      (∀ α p, Operation ⟨false, isMissing⟩ α p → (p.run client d).state = d) ∧
      ∀ delay deadline workers gs,
        (reconcileTimed client delay deadline ⟨false, isMissing⟩ workers gs d).state = d) ∧
    ∀ (d : Directory) (c : Roster), Faultless d → Validation.validate c = .ok () →
      ∀ delay deadline workers,
        (deadline = none →
          (reconcileTimed client delay deadline (mode false) workers c.groups d).value.isSome) ∧
        ∀ fs, (reconcileTimed client delay deadline (mode false) workers c.groups d).value =
          some fs → fs.result = .ok () := by
  refine ⟨fun σ client s => ⟨fun α p hp c hc => ?_, recorded_dry client s rfl⟩,
    fun service n => ?_, fun d => ?_, fun d c hd hc delay deadline workers => ?_⟩
  · exact hp.allCalls.calls s c hc rfl
  · have hread : ∀ c m, c.isMutating = false → Rest.SentOnly .get n m →
        Rest.SentOnly .get n (service.client c m).2 :=
      fun c m hc hm => hm.trans (service.sentOnly_client hc m)
    refine ⟨fun α p hp => hp.invariant rfl hread (.refl _ n), fun delay deadline workers gs => ?_⟩
    exact reconcileTimed_dry_invariant rfl hread delay deadline workers gs (.refl _ n)
  · have hread : ∀ c t, c.isMutating = false → t = d → (client c t).2 = d :=
      fun c t hc ht => (client_of_read hc t).trans ht
    refine ⟨fun α p hp => hp.invariant (I := (· = d)) rfl hread rfl,
      fun delay deadline workers gs => ?_⟩
    exact reconcileTimed_dry_invariant (I := (· = d)) rfl hread delay deadline workers gs rfl
  · refine ⟨?_, fun fs hfs => ?_⟩
    · rintro rfl
      exact isSome_reconcileTimed
    · have hgs := Validation.distinct_of_validate hc
      exact result_reconcileTimed hfs (quiet_dry_reconcileGroups hd hgs workers).value

/-- A dry run of the sample succeeds, although one of its groups does not exist. -/
theorem sample_dryRun_readOnly : sampleDirectory.find? "new@x.io" = none ∧
    (∀ c ∈ (reconcileGroups (mode false) 2 sampleRoster.groups).calls client sampleDirectory,
      c.isMutating = false) ∧
    ∃ fs, (reconcileTimed client 3 none (mode false) 2 sampleRoster.groups sampleDirectory).value =
      some fs ∧ fs.result = .ok () := by
  obtain ⟨hcalls, -, -, hvalid⟩ := dryRun_readOnly Directory.isMissing
  obtain ⟨hends, hall⟩ := hvalid sampleDirectory sampleRoster faultless_sampleDirectory
    validate_sampleRoster 3 none 2
  obtain ⟨fs, hfs⟩ := Option.isSome_iff_exists.mp (hends rfl)
  refine ⟨rfl, ?_, fs, hfs, hall fs hfs⟩
  exact (hcalls Directory client sampleDirectory).1 _ _ (.reconcileGroups 2 sampleRoster.groups)

end GroupKeeper.Reconcile
