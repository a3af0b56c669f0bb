import GroupKeeper.Proofs.Failure
import GroupKeeper.Proofs.Reconcile.Calls
import GroupKeeper.Proofs.Schedule.Events

/-! Reconciling several groups at a time comes to the same as reconciling them one at a time,
however many workers there are and however long a lookup takes. A run that is dropped at its
deadline has reconciled the first so many groups and removed no orphan. -/

namespace GroupKeeper.Reconcile

open Program

variable {σ : Type}

/-- Reconciling a group asks for the group before anything else. -/
theorem looksFirst_reconcileGroup (mode : Mode) (g : GroupSpec) :
    LooksFirst (reconcileGroup mode g) := by
  simp only [reconcileGroup]
  split
  · exact .done _
  · exact .log _ (.call _ rfl)

theorem looksFirst_jobs (mode : Mode) (gs : List GroupSpec) :
    ∀ p ∈ jobs mode gs, LooksFirst p := by
  intro p hp
  obtain ⟨g, -, rfl⟩ := List.mem_map.mp hp
  exact looksFirst_reconcileGroup mode g

theorem leading_reconcileGroup (mode : Mode) (g : GroupSpec) :
    (reconcileGroup mode g).leading = [] ∨
      (reconcileGroup mode g).leading = [.entered g.emailId .createOrUpdateGroup] := by
  simp only [reconcileGroup]
  split
  · exact .inl rfl
  · exact .inr rfl

theorem toList_joinFailures (all : List Failures) :
    (joinFailures all).toList = all.flatMap (·.toList) := by
  suffices h : ∀ fs : Failures, (all.foldl (· ++ ·) fs).toList =
      fs.toList ++ all.flatMap (·.toList) from h .none
  induction all with
  | nil => simp
  | cons fs all ih =>
      intro start
      rw [List.foldl_cons, ih, List.flatMap_cons, ← List.append_assoc]
      rfl

theorem joinFailures_eq_none {all : List Failures} (h : ∀ fs ∈ all, fs = .none) :
    joinFailures all = .none := by
  refine Failures.ext_toList ?_
  rw [toList_joinFailures, Failures.toList_none, List.flatMap_eq_nil_iff]
  intro fs hfs
  rw [h fs hfs, Failures.toList_none]

theorem run_emitAll (client : Client σ) (events : List Event) (s : σ) :
    (emitAll events).run client s = ⟨(), s, events⟩ := by
  induction events with
  | nil => rfl
  | cons e events ih => simp [emitAll, ih]

section ReconcileTimed

variable (client : Client σ) (mode : Mode) (workers : Nat) (gs : List GroupSpec) (s : σ)

/-- Reconciling groups one at a time runs the jobs in their order and then removes the orphans. -/
theorem state_run_reconcileGroups :
    ((reconcileGroups mode workers gs).run client s).state =
      ((deleteOrphans mode gs).run client (endState client (jobs mode gs) s)).state := by
  simp [reconcileGroups, run_bind, run_emitAll, state_run_sequence]

theorem value_run_reconcileGroups :
    ((reconcileGroups mode workers gs).run client s).value =
      joinFailures (endValues client (jobs mode gs) s) ++
        ((deleteOrphans mode gs).run client (endState client (jobs mode gs) s)).value := by
  simp [reconcileGroups, run_bind, run_emitAll, state_run_sequence, value_run_sequence]

theorem events_run_reconcileGroups :
    ((reconcileGroups mode workers gs).run client s).events =
      opening workers gs ++ endEvents client (jobs mode gs) s ++
        ((deleteOrphans mode gs).run client (endState client (jobs mode gs) s)).events := by
  simp [reconcileGroups, run_bind, run_emitAll, state_run_sequence, events_run_sequence]

theorem calls_run_reconcileGroups :
    (reconcileGroups mode workers gs).calls client s =
      (Program.sequence (jobs mode gs)).calls client s ++
        (deleteOrphans mode gs).calls client (endState client (jobs mode gs) s) := by
  have hopening : (emitAll (opening workers gs)).calls client s = [] :=
    List.eq_nil_iff_forall_not_mem.mpr ((allCalls_emitAll (P := fun _ => False) _).calls s)
  simp [reconcileGroups, calls_bind, hopening, run_emitAll, state_run_sequence]

variable {client mode gs s} in
/-- Reconciling groups changes nothing if no step of it does. -/
theorem quiet_reconcileGroups (hjobs : ∀ p ∈ jobs mode gs, Quiet client p s .none)
    (horphans : Quiet client (deleteOrphans mode gs) s .none) :
    Quiet client (reconcileGroups mode workers gs) s .none := by
  have hopening : Quiet client (emitAll (opening workers gs)) s () := by
    induction opening workers gs with
    | nil => exact .pure _
    | cons e events ih => exact .log e ih
  refine hopening.bind ((Quiet.sequence hjobs).bind (horphans.bind ?_))
  rw [joinFailures_eq_none (by simp), Failures.none_append]
  exact .pure _

variable (delay : Nat) (deadline : Option Nat)

theorem inOrder_jobs :
    Schedule.InOrder delay (Schedule.ofJobs (flight workers gs) (jobs mode gs) s)
      (jobs mode gs) := by
  have hflight : 0 < flight workers gs := by
    simp only [flight]
    omega
  exact Schedule.inOrder_ofJobs hflight (looksFirst_jobs mode gs) delay s

theorem inSequence_jobs :
    Schedule.InSequence client deadline (jobs mode gs) s []
      ((Schedule.ofJobs (flight workers gs) (jobs mode gs) s).run client delay deadline) :=
  (inOrder_jobs mode workers gs s delay).inSequence

variable {client mode workers gs s delay deadline}

/-- A run that ends leaves the state that reconciling the groups one at a time leaves, with the same
failures in some order. -/
theorem reconcileTimed_completed {fs : Failures}
    (h : (reconcileTimed client delay deadline mode workers gs s).value = some fs) :
    (reconcileTimed client delay deadline mode workers gs s).state =
        ((reconcileGroups mode workers gs).run client s).state ∧
      fs.toList.Perm ((reconcileGroups mode workers gs).run client s).value.toList := by
  have hjobs := inSequence_jobs client mode workers gs s delay deadline
  rw [state_run_reconcileGroups, value_run_reconcileGroups]
  simp only [reconcileTimed] at h ⊢
  split at h
  · next hended =>
    obtain ⟨n, hstate, hall⟩ := hjobs.state_eq
    rw [List.take_of_length_le (hall hended)] at hstate
    have hvalues := hjobs.values_perm hended
    simp only [hended, if_true, hstate] at h ⊢
    obtain rfl := Option.some.inj h
    refine ⟨trivial, ?_⟩
    refine List.Perm.append ?_ (.refl _)
    simp only [toList_joinFailures]
    exact hvalues.flatMap_right _
  · simp at h

/-- A run that ends makes the calls of reconciling the groups one at a time, in the same order. -/
theorem reconcileTimed_recorded {fs : Failures}
    (h : (reconcileTimed client.recorded delay deadline mode workers gs (s, [])).value = some fs) :
    (reconcileTimed client.recorded delay deadline mode workers gs (s, [])).state =
      (((reconcileGroups mode workers gs).run client s).state,
        (reconcileGroups mode workers gs).calls client s) := by
  rw [(reconcileTimed_completed h).1, run_recorded, List.nil_append]

/-- A run that ends has the events of reconciling the groups one at a time in the same order, but
for the announcement that a group is about to be looked up. -/
theorem events_reconcileTimed {fs : Failures}
    (h : (reconcileTimed client delay deadline mode workers gs s).value = some fs) {β : Type}
    {f : Event → Option β} (hf : ∀ a, f (.entered a .createOrUpdateGroup) = none) :
    (reconcileTimed client delay deadline mode workers gs s).events.filterMap f =
      ((reconcileGroups mode workers gs).run client s).events.filterMap f := by
  have hleading : ∀ p ∈ jobs mode gs, p.leading.filterMap f = [] := by
    intro p hp
    obtain ⟨g, -, rfl⟩ := List.mem_map.mp hp
    rcases leading_reconcileGroup mode g with hnil | hentered
    · rw [hnil, List.filterMap_nil]
    · simp [hentered, hf]
  have hjobs := inSequence_jobs client mode workers gs s delay deadline
  have horder := inOrder_jobs mode workers gs s delay
  rw [events_run_reconcileGroups]
  simp only [reconcileTimed] at h ⊢
  split at h
  · next hended =>
    obtain ⟨n, hstate, hall⟩ := hjobs.state_eq
    rw [List.take_of_length_le (hall hended)] at hstate
    have hevents := horder.events hleading hended
    simp only [hended, if_true, hstate, List.filterMap_append, hevents]
    rfl
  · simp at h

/-- A run that is dropped has done the first so many jobs and nothing else. -/
theorem reconcileTimed_dropped
    (h : (reconcileTimed client delay deadline mode workers gs s).value = none) :
    deadline.isSome ∧ ∃ n, (reconcileTimed client delay deadline mode workers gs s).state =
      endState client ((jobs mode gs).take n) s := by
  have hjobs := inSequence_jobs client mode workers gs s delay deadline
  simp only [reconcileTimed] at h ⊢
  split at h
  · simp at h
  · next hended =>
    obtain ⟨n, hstate, -⟩ := hjobs.state_eq
    refine ⟨hjobs.dropped (by simpa using hended), n, ?_⟩
    simp only [hended, Bool.false_eq_true, if_false, hstate]

/-- A run without a deadline ends. -/
theorem isSome_reconcileTimed :
    (reconcileTimed client delay none mode workers gs s).value.isSome := by
  cases h : (reconcileTimed client delay none mode workers gs s).value with
  | none => simpa using (reconcileTimed_dropped h).1
  | some fs => rfl

/-- A run that ends has succeeded if reconciling the groups one at a time succeeds. -/
theorem result_reconcileTimed {fs : Failures}
    (h : (reconcileTimed client delay deadline mode workers gs s).value = some fs)
    (hnone : ((reconcileGroups mode workers gs).run client s).value = .none) :
    fs.result = .ok () := by
  have hperm := (reconcileTimed_completed h).2
  rw [hnone] at hperm
  exact Failures.result_eq_ok_iff.mpr (Failures.ext_toList (List.perm_nil.mp hperm))

theorem endState_invariant {I : σ → Prop} {ps : List (Program Failures)}
    (hps : ∀ p ∈ ps, ∀ t, I t → I (p.run client t).state) (hs : I s) :
    I (endState client ps s) := by
  induction ps generalizing s with
  | nil => exact hs
  | cons p ps ih =>
      rw [endState_cons]
      exact ih (fun q hq => hps q (by simp [hq])) (hps p (by simp) s hs)

/-- What every job keeps, and removing the orphans keeps, a run keeps, whether it ends or is
dropped. -/
theorem reconcileTimed_invariant {I : σ → Prop}
    (hjobs : ∀ p ∈ jobs mode gs, ∀ t, I t → I (p.run client t).state)
    (horphans : ∀ t, I t → I ((deleteOrphans mode gs).run client t).state) (hs : I s) :
    I (reconcileTimed client delay deadline mode workers gs s).state := by
  cases h : (reconcileTimed client delay deadline mode workers gs s).value with
  | none =>
      obtain ⟨-, n, hstate⟩ := reconcileTimed_dropped h
      rw [hstate]
      exact endState_invariant (fun p hp => hjobs p (List.mem_of_mem_take hp)) hs
  | some fs =>
      rw [(reconcileTimed_completed h).1, state_run_reconcileGroups]
      exact horphans _ (endState_invariant hjobs hs)

end ReconcileTimed

end GroupKeeper.Reconcile
