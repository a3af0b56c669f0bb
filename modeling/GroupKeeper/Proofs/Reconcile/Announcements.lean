import Mathlib.Data.List.Forall2
import GroupKeeper.Proofs.Lists
import GroupKeeper.Proofs.Reconcile.Forecast

/-! A dry run announces what a confirmed run then does, one for one and in the same order, with one
exception. An owner or manager who is listed as a mere member is demoted by a confirmed run before
it looks for whom to remove; a dry run demotes nobody and announces the removal as well. -/

namespace GroupKeeper.Reconcile

open Directory Program

/-! ## Whole runs -/

/-- A group of the directory, or what stands for it where it is missing. -/
def entry (d : Directory) (g : GroupSpec) : DirectoryEntry :=
  (d.find? g.emailId).getD .blank

section Runs

variable {d d' : Directory} {gs : List GroupSpec}

theorem entry_of_isSome {g : GroupSpec} (h : (d.find? g.emailId).isSome) :
    d.find? g.emailId = some (entry d g) := by
  obtain ⟨e, he⟩ := Option.isSome_iff_exists.mp h
  rw [entry, he, Option.getD_some]

theorem mem_orphans_listing_iff (hd : WellFormed d) {x : Group} :
    x ∈ orphans gs (listing d) ↔ (∃ e, d.groups.get? (key x.email) = some e ∧ e.group = x) ∧
      ∀ g ∈ gs, Email.equals g.emailId x.email = false := by
  rw [orphans, List.mem_filter, mem_listing_iff hd]
  simp

theorem nodup_orphans_listing (hd : WellFormed d) : (orphans gs (listing d)).Nodup :=
  ((nodup_keys_listing hd).of_map _).filter _

theorem pairwise_orphans_listing :
    (orphans gs (listing d)).Pairwise fun a b => decide (a.email ≤ b.email) = true := by
  refine List.Pairwise.filter _ (List.pairwise_mergeSort (fun a b c hab hbc => ?_) ?_ _)
  · rw [decide_eq_true_eq] at hab hbc ⊢
    exact String.le_trans hab hbc
  · intro a b
    simpa using String.le_total a.email b.email

/-- Changes to wanted groups leave the list of the others as it is, its order included. -/
theorem orphans_listing_congr (hd : WellFormed d) (hd' : WellFormed d')
    (h : ∀ k, (∀ g ∈ gs, k ≠ key g.emailId) → d'.groups.get? k = d.groups.get? k) :
    orphans gs (listing d') = orphans gs (listing d) := by
  have hmem : ∀ x, x ∈ orphans gs (listing d') ↔ x ∈ orphans gs (listing d) := by
    intro x
    rw [mem_orphans_listing_iff hd, mem_orphans_listing_iff hd']
    refine and_congr_left fun hunwanted => ?_
    have hother : ∀ g ∈ gs, key x.email ≠ key g.emailId := by
      intro g hg heq
      have hequals := equals_of_key_eq heq.symm
      rw [hunwanted g hg] at hequals
      contradiction
    rw [h _ hother]
  have hperm : (orphans gs (listing d')).Perm (orphans gs (listing d)) :=
    (List.perm_ext_iff_of_nodup (nodup_orphans_listing hd') (nodup_orphans_listing hd)).mpr hmem
  -- Two groups of one list that no order tells apart are stored under one key.
  refine hperm.eq_of_pairwise ?_ pairwise_orphans_listing pairwise_orphans_listing
  intro a b ha hb hab hba
  obtain ⟨⟨e, hfind, rfl⟩, -⟩ := (mem_orphans_listing_iff hd).mp ((hmem a).mp ha)
  obtain ⟨⟨f, hfind', rfl⟩, -⟩ := (mem_orphans_listing_iff hd).mp hb
  rw [decide_eq_true_eq] at hab hba
  rw [String.le_antisymm hab hba, hfind'] at hfind
  rw [Option.some.inj hfind]

theorem effects_reconcileGroups {σ : Type} (client : Client σ) (mode : Mode) (workers : Nat)
    (gs : List GroupSpec) (s : σ) :
    (reconcileGroups mode workers gs).effects client s =
      (Program.sequence (jobs mode gs)).effects client s ++
        (deleteOrphans mode gs).effects client (endState client (jobs mode gs) s) := by
  rw [reconcileGroups, effects_bind, effects_emitAll (announced?_opening workers gs),
    run_emitAll, List.nil_append, effects_bind, effects_bind, effects_pure, List.append_nil,
    state_run_sequence]

theorem effects_dry_reconcileGroups (hd : Faultless d) (hgs : Distinct gs)
    (hall : ∀ g ∈ gs, (d.find? g.emailId).isSome) (workers : Nat) :
    (reconcileGroups (mode false) workers gs).effects client d =
      (gs.flatMap (fun g => forecast g (entry d g)) ++
        (orphans gs (listing d)).map groupRemoval).map (·.effect (mode false)) := by
  have hquiet : ∀ p ∈ gs.map (reconcileGroup (mode false)), Quiet client p d .none := by
    intro p hp
    obtain ⟨g, hg, rfl⟩ := List.mem_map.mp hp
    exact quiet_dry_reconcileGroup hd (hgs.members g hg).named
  have hsame : endState client (gs.map (reconcileGroup (mode false))) d = d :=
    endState_invariant (I := (· = d)) (fun p hp t ht => ht ▸ (hquiet p hp).state) rfl
  have hlist : (client .listGroups d).1 = .ok (listing d) := by rw [client_listGroups hd.list]
  rw [effects_reconcileGroups, jobs_of_distinct _ hgs, hsame, Quiet.effects_sequence hquiet,
    effects_deleteOrphans, hlist, planAfter, List.map_append, List.flatMap_map, List.map_flatMap]
  congr 1
  refine List.flatMap_congr fun g hg => ?_
  exact effects_dry_reconcileGroup hd (hgs.members g hg).named (entry_of_isSome (hall g hg))

/-- No job sees what the jobs before it did, as they are about other groups. -/
theorem effects_confirmed_jobs (hgs : Distinct gs) (hd : Healthy d)
    (hall : ∀ g ∈ gs, (d.find? g.emailId).isSome) :
    (Program.sequence (gs.map (reconcileGroup (mode true)))).effects client d =
      (gs.flatMap fun g => deeds g (entry d g)).map (·.effect (mode true)) := by
  induction gs generalizing d with
  | nil => rfl
  | cons g gs ih =>
      obtain ⟨hg, -⟩ := List.forall_mem_cons.mp hgs.members
      obtain ⟨hfound, hrest⟩ := List.forall_mem_cons.mp hall
      have hsame : ∀ g' ∈ gs, ((reconcileGroup (mode true) g).run client d).state.find? g'.emailId =
          d.find? g'.emailId :=
        fun g' hg' => get?_run_reconcileGroup (mode true) g (hgs.key_ne hg').symm d
      have hnext := ih hgs.tail (hd.run (reconcileGroup (mode true) g)) fun g' hg' => by
        rw [hsame g' hg']
        exact hrest g' hg'
      rw [List.map_cons, effects_sequence_cons, hnext,
        effects_confirmed_reconcileGroup hg hd (entry_of_isSome hfound), List.flatMap_cons,
        List.map_append]
      congr 2
      refine List.flatMap_congr fun g' hg' => ?_
      rw [entry, entry, hsame g' hg']

theorem effects_confirmed_reconcileGroups (hgs : Distinct gs) (hd : Healthy d)
    (hall : ∀ g ∈ gs, (d.find? g.emailId).isSome) (workers : Nat) :
    (reconcileGroups (mode true) workers gs).effects client d =
      (gs.flatMap (fun g => deeds g (entry d g)) ++
        (orphans gs (listing d)).map groupRemoval).map (·.effect (mode true)) := by
  obtain ⟨-, hhealthy, hreconciled⟩ := endState_jobs hgs hd
  have hlist := congrArg Prod.fst (client_listGroups hhealthy.faultless.list)
  rw [effects_reconcileGroups, jobs_of_distinct _ hgs, effects_confirmed_jobs hgs hd hall,
    effects_deleteOrphans, hlist, planAfter,
    orphans_listing_congr hd.wellFormed hhealthy.wellFormed hreconciled.others, List.map_append]

end Runs

/-! ## One for one -/

/-- An announced change and a call that makes it: the same operation on the same group, with the
same mailbox and the same role where it is about a member. Calls name members by the ids under which
the directory knows them. -/
inductive Announces (d : Directory) : Change → Call → Prop where
  | updateGroup (a : String) (g : Group) : Announces d (.updateGroup a) (.updateGroup a g)
  | updateSettings (a : String) (current wanted : Settings) :
      Announces d (.updateSettings a current wanted) (.patchSettings a wanted)
  | addMember (a email : String) (role : Role) :
      Announces d (.addMember a email role) (.insertMember a (Member.new email role))
  | updateMember {a email : String} {e : DirectoryEntry} {m : Member} (role : Role) :
      d.find? a = some e → m ∈ e.members → Email.equals m.email email = true →
        Announces d (.updateMember a email m.role role) (.updateMember a m.id { m with role })
  | removeMember {a : String} {e : DirectoryEntry} {m : Member} :
      d.find? a = some e → m ∈ e.members →
        Announces d (.removeMember a m.email m.role) (.deleteMember a m.id)
  | removeGroup (a : String) : Announces d (.removeGroup a) (.deleteGroup a)

section OneForOne

variable {d : Directory} {gs : List GroupSpec} {g : GroupSpec} {e : DirectoryEntry} {p : Planned}

theorem announces_of_mem_upkeep (hfind : d.find? g.emailId = some e) (hp : p ∈ upkeep g e) :
    Announces d p.change p.call := by
  rcases List.mem_append.mp hp with hp | hp
  · rcases List.mem_append.mp hp with hp | hp
    · obtain rfl := eq_of_mem_groupPlan hp
      exact .updateGroup _ _
    · obtain rfl := eq_of_mem_settingsPlan hp
      exact .updateSettings _ _ _
  · obtain ⟨role, -, hp⟩ := List.mem_flatMap.mp hp
    obtain ⟨email, -, hp⟩ := List.mem_flatMap.mp hp
    obtain rfl | ⟨m, hfirst, rfl⟩ := eq_of_mem_placementPlan hp
    · exact .addMember _ _ _
    · exact .updateMember role hfind (mem_of_mailbox? hfirst) (equals_of_mailbox? hfirst)

theorem announces_of_mem_forecast (hfind : d.find? g.emailId = some e) (hp : p ∈ forecast g e) :
    Announces d p.change p.call := by
  rcases List.mem_append.mp hp with hp | hp
  · exact announces_of_mem_upkeep hfind hp
  · obtain ⟨m, hm, rfl⟩ := List.mem_map.mp hp
    exact .removeMember hfind (List.mem_filter.mp hm).1

/-- The changes that a dry run announces. -/
def announcements (workers delay : Nat) (gs : List GroupSpec) (d : Directory) : List Change :=
  (reconcileTimed client delay none (mode false) workers gs d).events.filterMap Event.announced?

/-- The changing calls that a confirmed run makes. -/
def changes (workers delay : Nat) (gs : List GroupSpec) (d : Directory) : List Call :=
  (reconcileTimed client.recorded delay none (mode true) workers gs (d, [])).state.2.filter
    (·.isMutating)

theorem announcements_eq (hd : Faultless d) (hgs : Distinct gs)
    (hall : ∀ g ∈ gs, (d.find? g.emailId).isSome) (workers delay : Nat) :
    announcements workers delay gs d = (gs.flatMap (fun g => forecast g (entry d g)) ++
      (orphans gs (listing d)).map groupRemoval).map (·.change) := by
  have hends : (reconcileTimed client delay none (mode false) workers gs d).value.isSome :=
    isSome_reconcileTimed
  obtain ⟨fs, hfs⟩ := Option.isSome_iff_exists.mp hends
  rw [announcements, events_reconcileTimed hfs fun a => rfl, announced_run,
    effects_dry_reconcileGroups hd hgs hall workers, announced_effects rfl]

theorem changes_eq (hd : Healthy d) (hgs : Distinct gs)
    (hall : ∀ g ∈ gs, (d.find? g.emailId).isSome) (workers delay : Nat) :
    changes workers delay gs d = (gs.flatMap (fun g => deeds g (entry d g)) ++
      (orphans gs (listing d)).map groupRemoval).map (·.call) := by
  have hends : (reconcileTimed client.recorded delay none (mode true) workers gs
    (d, [])).value.isSome := isSome_reconcileTimed
  obtain ⟨fs, hfs⟩ := Option.isSome_iff_exists.mp hends
  rw [changes, reconcileTimed_recorded hfs, changing_calls,
    effects_confirmed_reconcileGroups hgs hd hall workers, changing_effects rfl]

/-- Fewer calls are made than changes are announced if an owner or manager steps down. -/
theorem length_eq_iff (hd : Healthy d) (hgs : Distinct gs)
    (hall : ∀ g ∈ gs, (d.find? g.emailId).isSome) (workers delay workers' delay' : Nat) :
    (announcements workers delay gs d).length = (changes workers' delay' gs d).length ↔
      ∀ g ∈ gs, ¬ StepsDown g (entry d g).members := by
  rw [announcements_eq hd.faultless hgs hall, changes_eq hd hgs hall]
  simp only [List.length_map, List.length_append, Nat.add_right_cancel_iff]
  constructor
  · intro hlength g hg
    exact (deeds_eq_iff (hgs.members g hg)).mp
      (eq_of_length_flatMap (fun g => deeds_sublist) hlength.symm g hg)
  · intro hnone
    rw [List.flatMap_congr fun g hg => (deeds_eq_iff (hgs.members g hg)).mpr (hnone g hg)]

theorem announced_of_changes (hd : Healthy d) (hgs : Distinct gs)
    (hall : ∀ g ∈ gs, (d.find? g.emailId).isSome) (workers delay workers' delay' : Nat) :
    ∃ kept, kept.Sublist (announcements workers delay gs d) ∧
      List.Forall₂ (Announces d) kept (changes workers' delay' gs d) := by
  rw [announcements_eq hd.faultless hgs hall, changes_eq hd hgs hall]
  refine ⟨_, ((sublist_flatMap fun g => deeds_sublist).append (.refl _)).map _, ?_⟩
  rw [List.forall₂_map_left_iff, List.forall₂_map_right_iff, List.forall₂_same]
  intro p hp
  rcases List.mem_append.mp hp with hp | hp
  · obtain ⟨g, hg, hp⟩ := List.mem_flatMap.mp hp
    exact announces_of_mem_forecast (entry_of_isSome (hall g hg)) (deeds_sublist.subset hp)
  · obtain ⟨x, -, rfl⟩ := List.mem_map.mp hp
    exact .removeGroup _

end OneForOne

/-- From every directory that can be built without injected failures and that has every group of a
checked roster: (1) every call of a confirmed run was announced by a dry run, in the same order; and
(2) announcements and calls match one for one, in whatever order, exactly if no owner or manager is
listed as a mere member of a group of which only owners and managers are removed. Neither the number
of workers nor the time of a lookup matters. -/
theorem reconcileTimed_announces_iff {d : Directory} (hd : Reachable d) (hfaultless : Faultless d)
    {c : Roster} (hc : Validation.validate c = .ok ())
    (hall : ∀ g ∈ c.groups, (d.find? g.emailId).isSome) (workers delay workers' delay' : Nat) :
    (∃ kept, kept.Sublist (announcements workers delay c.groups d) ∧
      List.Forall₂ (Announces d) kept (changes workers' delay' c.groups d)) ∧
    ((∃ calls, calls.Perm (changes workers' delay' c.groups d) ∧
      List.Forall₂ (Announces d) (announcements workers delay c.groups d) calls) ↔
        ∀ g ∈ c.groups, ¬ StepsDown g (entry d g).members) := by
  have hgs := Validation.distinct_of_validate hc
  have hhealthy := hd.healthy hfaultless
  have hlength := length_eq_iff hhealthy hgs hall workers delay workers' delay'
  obtain ⟨kept, hsub, hkept⟩ :=
    announced_of_changes hhealthy hgs hall workers delay workers' delay'
  refine ⟨⟨kept, hsub, hkept⟩, ?_⟩
  rw [← hlength]
  constructor
  · rintro ⟨calls, hperm, hcalls⟩
    rw [hcalls.length_eq, hperm.length_eq]
  · intro heq
    obtain rfl := hsub.eq_of_length (by rw [hkept.length_eq, heq])
    exact ⟨_, .refl _, hkept⟩

/-- The sample roster without the group that does not exist. -/
def presentRoster : Roster :=
  ⟨sampleRoster.groups.take 1⟩

/-- A promotion, an addition and the removals of an owner and of a group are announced and made. -/
theorem sample_announces :
    (∀ g ∈ presentRoster.groups, (sampleDirectory.find? g.emailId).isSome) ∧
    (∀ g ∈ presentRoster.groups, ¬ StepsDown g (entry sampleDirectory g).members) ∧
    ∃ calls, calls.Perm (changes 2 3 presentRoster.groups sampleDirectory) ∧
      List.Forall₂ (Announces sampleDirectory)
        (announcements 5 0 presentRoster.groups sampleDirectory) calls := by
  have hall : ∀ g ∈ presentRoster.groups, (sampleDirectory.find? g.emailId).isSome := by
    decide +kernel
  have hnone : ∀ g ∈ presentRoster.groups, ¬ StepsDown g (entry sampleDirectory g).members := by
    decide +kernel
  have hvalid : Validation.validate presentRoster = .ok () := rfl
  exact ⟨hall, hnone, (reconcileTimed_announces_iff reachable_sampleDirectory
    faultless_sampleDirectory hvalid hall 5 0 2 3).2.mpr hnone⟩

/-! ## An owner who steps down -/

/-- A group with one listed member. -/
def steppingSpec : GroupSpec :=
  { GroupSpec.blank with emailId := "team@x.io", members := ["ann@x.io"] }

def steppingRoster : Roster := ⟨[steppingSpec]⟩

/-- The group with the listed member as its owner. -/
def steppingDirectory : Directory :=
  ((empty.withGroup "team@x.io" "" "").withMember "team@x.io" "ann@x.io" .owner).2

theorem reachable_steppingDirectory : Reachable steppingDirectory :=
  .withMember _ _ _ (.withGroup _ _ _ .empty)

theorem stepsDown_stepping :
    ∀ g ∈ steppingRoster.groups, StepsDown g (entry steppingDirectory g).members := by
  decide +kernel

/-- The dry run announces that the owner is demoted and removed, and the confirmed run only demotes
the owner. -/
theorem stepping_not_oneForOne :
    Reachable steppingDirectory ∧ Faultless steppingDirectory ∧
    Validation.validate steppingRoster = .ok () ∧
    (∀ g ∈ steppingRoster.groups, (steppingDirectory.find? g.emailId).isSome) ∧
    ¬ ∃ calls, calls.Perm (changes 5 0 steppingRoster.groups steppingDirectory) ∧
      List.Forall₂ (Announces steppingDirectory)
        (announcements 5 0 steppingRoster.groups steppingDirectory) calls := by
  have hreachable := reachable_steppingDirectory
  have hfaultless : Faultless steppingDirectory := ⟨rfl, rfl, rfl⟩
  have hvalid : Validation.validate steppingRoster = .ok () := rfl
  have hall : ∀ g ∈ steppingRoster.groups, (steppingDirectory.find? g.emailId).isSome := by
    decide +kernel
  refine ⟨hreachable, hfaultless, hvalid, hall, ?_⟩
  rintro ⟨calls, hperm, hcalls⟩
  have hlength := (length_eq_iff (hreachable.healthy hfaultless)
    (Validation.distinct_of_validate hvalid) hall 5 0 5 0).mp (by
      rw [hcalls.length_eq, hperm.length_eq])
  have hg := List.mem_singleton_self (steppingRoster.groups.head (by decide))
  exact hlength _ hg (stepsDown_stepping _ hg)

end GroupKeeper.Reconcile
