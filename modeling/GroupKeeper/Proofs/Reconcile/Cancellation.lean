import GroupKeeper.Proofs.Reconcile.Convergence
import GroupKeeper.Proofs.Reconcile.Dedup

/-! Runs against the clock, with all their calls. A run that ends makes the calls that reconciling
the groups one at a time makes, in the same order. A run that is dropped has reconciled the first so
many groups one at a time: no group is left half done, and no group is removed. A lookup counts as
made when it is answered. -/

namespace GroupKeeper.Reconcile

open Directory Program

/-! ## Groups that stay -/

section Jobs

variable {mode : Mode} {gs : List GroupSpec}

/-- Reconciling a group deletes no group. -/
theorem allCalls_reconcileGroup_ne_deleteGroup (mode : Mode) (g : GroupSpec) :
    (reconcileGroup mode g).AllCalls fun c => ∀ a, c ≠ .deleteGroup a := by
  have hplace : ∀ role emails, (addOrUpdateMembers mode g role emails).AllCalls
      fun c => ∀ a, c ≠ .deleteGroup a :=
    AllCalls.addOrUpdateMembers (by simp) (by simp) (by simp)
  have hremove : ∀ keep removable, (removeUnlisted mode g keep removable).AllCalls
      fun c => ∀ a, c ≠ .deleteGroup a :=
    AllCalls.removeUnlisted (by simp) (by simp)
  rw [reconcileGroup]
  split
  · trivial
  · refine (AllCalls.createOrUpdateGroup (by simp) (by simp) (by simp)).bind fun _ => ?_
    refine (AllCalls.updateSettings (by simp) (by simp)).bind fun _ => ?_
    refine (hplace .owner _).bind fun _ => (hplace .manager _).bind fun _ => ?_
    refine (hplace .member _).bind fun _ => Program.AllCalls.bind ?_ fun _ => trivial
    rw [removeOthers]
    split
    · exact hremove _ _
    · exact hremove _ _

theorem ne_deleteGroup_of_jobs {σ : Type} {client : Client σ} {ps : List (Program Failures)}
    (hps : ps ⊆ jobs mode gs) {t : σ × List Call} (ht : ∀ a, .deleteGroup a ∉ t.2) :
    ∀ a, .deleteGroup a ∉ (endState client.recorded ps t).2 := by
  refine endState_invariant (I := fun t : σ × List Call => ∀ a, .deleteGroup a ∉ t.2)
    (fun p hp t ht => ?_) ht
  obtain ⟨g, -, rfl⟩ := List.mem_map.mp (hps hp)
  refine (allCalls_reconcileGroup_ne_deleteGroup mode g).run_invariant
    (I := fun t : σ × List Call => ∀ a, .deleteGroup a ∉ t.2) (fun c t hc ht => ?_) ht
  intro a ha
  rcases List.mem_append.mp ha with ha | ha
  · exact ht a ha
  · exact hc a (List.mem_singleton.mp ha).symm

/-- The jobs leave the groups alone that are not wanted. -/
theorem get?_of_jobs {d : Directory} (hd : WellFormed d) {ps : List (Program Failures)}
    (hps : ps ⊆ jobs mode gs) {seen : List Call} {k : String} {e : DirectoryEntry}
    (hget : d.groups.get? k = some e) (hwanted : isWanted gs e = false) :
    (endState client.recorded ps (d, seen)).1.groups.get? k = some e := by
  refine endState_invariant (I := fun t : Directory × List Call => t.1.groups.get? k = some e)
    (fun p hp t ht => ?_) hget
  obtain ⟨g, hg, rfl⟩ := List.mem_map.mp (hps hp)
  have hne : k ≠ key g.emailId := by
    intro heq
    have hequal := Directory.equals_of_key_eq (heq.symm.trans (hd.keyed k e hget))
    simp [isWanted] at hwanted
    simp [hwanted g ((dedup_sublist gs).subset hg)] at hequal
  rw [run_recorded, get?_run_reconcileGroup mode g hne]
  exact ht

end Jobs

/-! ## Runs against the clock -/

/-- A run that ends is the sequential run, call for call, with the same failures in some order. A
run that is dropped has done the first so many jobs, one after another and each to its end, and has
left every group in place that is not wanted. Without a deadline a run ends. -/
theorem reconcileTimed_refines {d : Directory} (hd : Reachable d) (mode : Mode)
    (gs : List GroupSpec) (workers delay : Nat) (deadline : Option Nat) :
    let out := reconcileTimed client.recorded delay deadline mode workers gs (d, [])
    let oneAtATime := (reconcileGroups mode workers gs).run client.recorded (d, [])
    let firstOnes := fun n =>
      (Program.sequence (((dedup gs).take n).map (reconcileGroup mode))).run client.recorded (d, [])
    (∀ fs, out.value = some fs →
      out.state = oneAtATime.state ∧ fs.toList.Perm oneAtATime.value.toList) ∧
    (out.value = none →
      (∃ n, out.state = (firstOnes n).state) ∧
      (∀ a, .deleteGroup a ∉ out.state.2) ∧
      ∀ k e, d.groups.get? k = some e → isWanted gs e = false →
        out.state.1.groups.get? k = some e) ∧
    (deadline = none → out.value.isSome) := by
  refine ⟨fun fs hfs => reconcileTimed_completed hfs, fun hdropped => ?_, fun hnone => ?_⟩
  · obtain ⟨-, n, hstate⟩ := reconcileTimed_dropped hdropped
    have hjobs : (jobs mode gs).take n ⊆ jobs mode gs := (List.take_sublist n _).subset
    rw [hstate]
    refine ⟨⟨n, ?_⟩, ne_deleteGroup_of_jobs hjobs (by simp), fun k e hget hwanted => ?_⟩
    · rw [state_run_sequence, jobs, List.map_take]
    · exact get?_of_jobs hd.wellFormed hjobs hget hwanted
  · subst hnone
    exact isSome_reconcileTimed

/-- With one worker and the deadline between the ends of the two lookups, the sample run is dropped
after its first group. -/
theorem sample_refines :
    (reconcileTimed client.recorded sampleDirectory.lookupDelay (some 4) (mode true) 1
      sampleRoster.groups (sampleDirectory, [])).value = none ∧
    ∃ n, (reconcileTimed client.recorded sampleDirectory.lookupDelay (some 4) (mode true) 1
        sampleRoster.groups (sampleDirectory, [])).state =
      ((Program.sequence (((dedup sampleRoster.groups).take n).map
        (reconcileGroup (mode true)))).run client.recorded (sampleDirectory, [])).state := by
  have hdropped : (reconcileTimed client.recorded sampleDirectory.lookupDelay (some 4) (mode true) 1
      sampleRoster.groups (sampleDirectory, [])).value = none := by
    decide +kernel
  exact ⟨hdropped, ((reconcileTimed_refines reachable_sampleDirectory (mode true)
    sampleRoster.groups 1 sampleDirectory.lookupDelay (some 4)).2.1 hdropped).1⟩

end GroupKeeper.Reconcile
