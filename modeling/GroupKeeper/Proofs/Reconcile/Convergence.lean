import GroupKeeper.Proofs.Reconcile.Dedup
import GroupKeeper.Proofs.Reconcile.Group
import GroupKeeper.Proofs.Reconcile.Orphans
import GroupKeeper.Proofs.Reconcile.Timed

/-! A confirmed run makes the directory what the roster says. Each group is settled by its own job,
which the other jobs leave alone, and removing the groups that are not wanted removes none that
is. -/

namespace GroupKeeper

open Directory Program

theorem Directory.equals_of_key_eq {a b : String} (h : key a = key b) :
    Email.equals a b = true :=
  Email.equals_of_lowerChars_eq (String.ofList_injective h)

theorem Distinct.key_ne {g : GroupSpec} {gs : List GroupSpec} (h : Distinct (g :: gs))
    {g' : GroupSpec} (hg' : g' ∈ gs) : key g.emailId ≠ key g'.emailId := by
  intro heq
  have hne := (List.pairwise_cons.mp h.groups).1 g' hg'
  simp [Directory.equals_of_key_eq heq] at hne

theorem Distinct.tail {g : GroupSpec} {gs : List GroupSpec} (h : Distinct (g :: gs)) :
    Distinct gs :=
  ⟨(List.pairwise_cons.mp h.groups).2, (List.forall_mem_cons.mp h.members).2⟩

namespace Reconcile

variable {d : Directory} {gs : List GroupSpec}

/-! ## Jobs -/

/-- A job leaves every group alone but its own. -/
theorem get?_run_reconcileGroup (mode : Mode) (g : GroupSpec) {k : String}
    (hne : k ≠ key g.emailId) (d : Directory) :
    ((reconcileGroup mode g).run client d).state.groups.get? k = d.groups.get? k :=
  get?_run_of_serves (allCalls_reconcileGroup mode g) hne d

/-- What the jobs of a list of groups make of a directory. -/
structure AllReconciled (gs : List GroupSpec) (before after : Directory) : Prop where
  reconciled : ∀ g ∈ gs, ∃ e, after.find? g.emailId = some e ∧
    Reconciled g ((before.find? g.emailId).getD .blank) e
  others : ∀ k, (∀ g ∈ gs, k ≠ key g.emailId) → after.groups.get? k = before.groups.get? k

/-- What the jobs of a list of groups make of a directory that may have been told to fail. -/
structure AllHandled (gs : List GroupSpec) (before after : Directory) : Prop where
  handled : ∀ g ∈ gs, Found before g (before.find? g.emailId)
    (Handled before g ((before.find? g.emailId).getD .blank)) (after.find? g.emailId)
  others : ∀ k, (∀ g ∈ gs, k ≠ key g.emailId) → after.groups.get? k = before.groups.get? k

theorem wellFormed_endState (hd : WellFormed d) (ps : List (Program Failures)) :
    WellFormed (endState client ps d) :=
  endState_invariant (fun p _ _ ht => ht.run p) hd

theorem sameFaults_endState (ps : List (Program Failures)) (d : Directory) :
    SameFaults d (endState client ps d) :=
  endState_invariant (fun p _ _ ht => ht.trans (sameFaults_run p _)) (.refl d)

/-- Each job handles its group for good, and none fails but for injected failures. -/
theorem handled_endState_jobs {d₀ : Directory} (hgs : Distinct gs) (hd : WellFormed d)
    (hfaults : SameFaults d₀ d) :
    (Faultless d₀ → ∀ fs ∈ endValues client (gs.map (reconcileGroup (mode true))) d, fs = .none) ∧
      (∀ g ∈ gs, Found d₀ g (d.find? g.emailId)
        (Handled d₀ g ((d.find? g.emailId).getD .blank))
        ((endState client (gs.map (reconcileGroup (mode true))) d).find? g.emailId)) ∧
      ∀ k, (∀ g ∈ gs, k ≠ key g.emailId) →
        (endState client (gs.map (reconcileGroup (mode true))) d).groups.get? k =
          d.groups.get? k := by
  induction gs generalizing d with
  | nil => exact ⟨by simp [endValues], by simp, fun _ _ => rfl⟩
  | cons g gs ih =>
      obtain ⟨hg, -⟩ := List.forall_mem_cons.mp hgs.members
      obtain ⟨hvalue, hfound⟩ := leaves_reconcileGroup hg (d.find? g.emailId) d hd hfaults rfl
      obtain ⟨hvalues, hrest, hothers⟩ :=
        ih hgs.tail (hd.run (reconcileGroup (mode true) g)) (hfaults.trans (sameFaults_run _ d))
      rw [List.map_cons, endState_cons, endValues_cons]
      refine ⟨fun hd₀ => List.forall_mem_cons.mpr ⟨hvalue hd₀, hvalues hd₀⟩, ?_, fun k hk => ?_⟩
      · refine List.forall_mem_cons.mpr ⟨?_, fun g' hg' => ?_⟩
        · have hkept := hothers (key g.emailId) fun g' hg' => hgs.key_ne hg'
          rw [← find?, ← find?] at hkept
          rw [hkept]
          exact hfound
        · have hsame : ((reconcileGroup (mode true) g).run client d).state.find? g'.emailId =
              d.find? g'.emailId :=
            get?_run_reconcileGroup (mode true) g (hgs.key_ne hg').symm d
          rw [← hsame]
          exact hrest g' hg'
      · obtain ⟨hk, hkrest⟩ := List.forall_mem_cons.mp hk
        rw [hothers k hkrest, get?_run_reconcileGroup (mode true) g hk]

theorem allHandled_endState (hgs : Distinct gs) (hd : WellFormed d) :
    AllHandled gs d (endState client (gs.map (reconcileGroup (mode true))) d) := by
  obtain ⟨-, hhandled, hothers⟩ := handled_endState_jobs hgs hd (.refl d)
  exact ⟨hhandled, hothers⟩

/-- The jobs succeed, and each of them reconciles its group for good. -/
theorem endState_jobs (hgs : Distinct gs) (hd : Healthy d) :
    (∀ fs ∈ endValues client (gs.map (reconcileGroup (mode true))) d, fs = .none) ∧
      Healthy (endState client (gs.map (reconcileGroup (mode true))) d) ∧
      AllReconciled gs d (endState client (gs.map (reconcileGroup (mode true))) d) := by
  obtain ⟨hvalues, hhandled, hothers⟩ := handled_endState_jobs hgs hd.wellFormed (.refl d)
  refine ⟨hvalues hd.faultless, ?_, fun g hg => ?_, hothers⟩
  · exact ⟨wellFormed_endState hd.wellFormed _, hd.faultless.congr (sameFaults_endState _ d)⟩
  · have hfound := hhandled g hg
    rw [found_of_lookup (hd.faultless.failsGroup _)] at hfound
    obtain ⟨e, hfind, he⟩ := hfound
    exact ⟨e, hfind, reconciled_of_handled hd.faultless he⟩

/-! ## Whole runs -/

/-- A directory before and after it was made what a list of groups says. -/
structure Converged (gs : List GroupSpec) (before after : Directory) : Prop where
  /-- Each group is stored under its address in small letters, and it is settled. -/
  settled : ∀ g ∈ gs, ∃ e, after.groups.get? (key g.emailId) = some e ∧
    Settled g ((before.groups.get? (key g.emailId)).getD .blank) e
  /-- Every group that is left has an equivalent among the wanted ones. -/
  wanted : ∀ k e, after.groups.get? k = some e →
    ∃ g ∈ gs, Email.equals g.emailId e.group.email = true
  /-- Under all other addresses exactly the groups with an equivalent are left, as they were. -/
  others : ∀ k, (∀ g ∈ gs, k ≠ key g.emailId) →
    after.groups.get? k = (before.groups.get? k).filter (isWanted gs)

theorem jobs_of_distinct (mode : Mode) (hgs : Distinct gs) :
    jobs mode gs = gs.map (reconcileGroup mode) := by
  rw [jobs, dedup_of_distinct hgs]

/-- Every wanted group is reconciled after a whole run, as removing the orphans removes none of
them. -/
theorem reconciled_run_reconcileGroups (hgs : Distinct gs) (hd : Healthy d) (workers : Nat) :
    ∀ g ∈ gs, ∃ e,
      ((reconcileGroups (mode true) workers gs).run client d).state.find? g.emailId = some e ∧
        Reconciled g ((d.find? g.emailId).getD .blank) e := by
  intro g hg
  obtain ⟨-, hhealthy, hreconciled⟩ := endState_jobs hgs hd
  obtain ⟨-, hget⟩ := run_deleteOrphans hhealthy.wellFormed hhealthy.faultless.list gs
  obtain ⟨e, hfind, he⟩ := hreconciled.reconciled g hg
  refine ⟨e, ?_, he⟩
  have hkey : key g.emailId = key e.group.email := hhealthy.wellFormed.keyed _ e hfind
  have hwanted : isWanted gs e = true :=
    List.any_eq_true.mpr ⟨g, hg, Directory.equals_of_key_eq hkey⟩
  rw [find?] at hfind
  rw [state_run_reconcileGroups, jobs_of_distinct _ hgs, find?, hget, hfind, Option.filter,
    if_pos hwanted]

/-- Reconciling distinct groups one at a time. -/
theorem run_reconcileGroups (hgs : Distinct gs) (hd : Healthy d) (workers : Nat) :
    ((reconcileGroups (mode true) workers gs).run client d).value = .none ∧
      Converged gs d ((reconcileGroups (mode true) workers gs).run client d).state := by
  obtain ⟨hvalues, hhealthy, hreconciled⟩ := endState_jobs hgs hd
  obtain ⟨hvalue, hget⟩ := run_deleteOrphans hhealthy.wellFormed hhealthy.faultless.list gs
  rw [value_run_reconcileGroups, jobs_of_distinct _ hgs]
  refine ⟨?_, ?_, ?_, ?_⟩
  · rw [joinFailures_eq_none hvalues, hvalue, Failures.append_none]
  · intro g hg
    obtain ⟨e, hfind, he⟩ := reconciled_run_reconcileGroups hgs hd workers g hg
    exact ⟨e, hfind, settled_of_reconciled (hgs.members g hg) he⟩
  · intro k e he
    rw [state_run_reconcileGroups, jobs_of_distinct _ hgs, hget] at he
    exact List.any_eq_true.mp (Option.filter_eq_some_iff.mp he).2
  · intro k hk
    rw [state_run_reconcileGroups, jobs_of_distinct _ hgs, hget, hreconciled.others k hk]

/-- From every directory that can be built without injected failures, a confirmed run of a checked
roster that ends has succeeded and has made the directory what the roster says, however many workers
there are and however long a lookup takes. Without a deadline it does end. -/
theorem reconcileTimed_converges {d : Directory} (hd : Reachable d) (hfaultless : Faultless d)
    {c : Roster} (hc : Validation.validate c = .ok ()) (workers delay : Nat)
    (deadline : Option Nat) :
    (deadline = none →
      (reconcileTimed client delay deadline (mode true) workers c.groups d).value.isSome) ∧
    ∀ fs, (reconcileTimed client delay deadline (mode true) workers c.groups d).value = some fs →
      fs.result = .ok () ∧
      Converged c.groups d
        (reconcileTimed client delay deadline (mode true) workers c.groups d).state := by
  have hgs := Validation.distinct_of_validate hc
  obtain ⟨hvalue, hconverged⟩ := run_reconcileGroups hgs (hd.healthy hfaultless) workers
  refine ⟨fun hnone => ?_, fun fs hfs => ⟨result_reconcileTimed hfs hvalue, ?_⟩⟩
  · subst hnone
    exact isSome_reconcileTimed
  · rw [(reconcileTimed_completed hfs).1]
    exact hconverged

/-! ## A sample -/

/-- Two groups, of which one has an owner that the directory knows under another spelling. -/
def sampleRoster : Roster := ⟨[
  { GroupSpec.blank with
    emailId := "Team@x.io", name := "Team", owners := ["Ann.Lee@x.io"], members := ["bob@x.io"] },
  { GroupSpec.blank with emailId := "new@x.io", managers := ["cid@x.io"] }]⟩

/-- One of the groups with an owner who is not listed, the other one missing, and a third group. -/
def sampleDirectory : Directory :=
  ((((empty.withGroup "team@x.io" "" "").withMember "team@x.io" "annlee@x.io" .member).2.withMember
    "team@x.io" "dan@x.io" .owner).2.withGroup "old@x.io" "" "").withLookupDelay 3

theorem reachable_sampleDirectory : Reachable sampleDirectory :=
  .withLookupDelay _ (.withGroup _ _ _ (.withMember _ _ _ (.withMember _ _ _
    (.withGroup _ _ _ .empty))))

theorem faultless_sampleDirectory : Faultless sampleDirectory :=
  ⟨rfl, rfl, rfl⟩

theorem validate_sampleRoster : Validation.validate sampleRoster = .ok () :=
  rfl

/-- Two workers make the sample directory what the sample roster says. -/
theorem sample_converges : ∃ fs,
    (reconcileTimed client sampleDirectory.lookupDelay none (mode true) 2 sampleRoster.groups
      sampleDirectory).value = some fs ∧ fs.result = .ok () ∧
    Converged sampleRoster.groups sampleDirectory
      (reconcileTimed client sampleDirectory.lookupDelay none (mode true) 2 sampleRoster.groups
        sampleDirectory).state := by
  obtain ⟨hends, hall⟩ := reconcileTimed_converges reachable_sampleDirectory
    faultless_sampleDirectory validate_sampleRoster 2 sampleDirectory.lookupDelay none
  obtain ⟨fs, hfs⟩ := Option.isSome_iff_exists.mp (hends rfl)
  exact ⟨fs, hfs, hall fs hfs⟩

end Reconcile

end GroupKeeper
