import GroupKeeper.Proofs.FailedCalls
import GroupKeeper.Proofs.Reconcile.Cancellation

/-! What a run reports. Every failed call is told of once, in the course of what it was made for,
unless it only says that a group is not there where that is fine; nothing else is told but which
groups have no address. The answers do not matter: this holds of every way in which the calls can be
answered. -/

namespace GroupKeeper

/-- Whether a call may well find that there is no such group. -/
def Call.mayMiss : Call → Bool
  | .getGroup _ | .getSettings _ | .listMembers _ => true
  | _ => false

theorem Call.mayMiss_of_isMutating {c : Call} (h : c.isMutating = true) : c.mayMiss = false := by
  cases c <;> first | rfl | cases h

namespace Reconcile

open Program

/-- Whether the failure of a call is one to tell of. -/
def reported (mode : Mode) (x : FailedCall) : Bool :=
  !(x.call.mayMiss && mode.isMissing x.failure)

/-- A failure that tells of a failed call: its own failure, in the course of something. -/
def TellsOf (f : Failure) (x : FailedCall) : Prop :=
  ∃ context, f = .during context x.failure

/-- Failures that tell of failed calls, once of each that is to be told of. -/
def Accounts (mode : Mode) (noted : List FailedCall) (fs : Failures) : Prop :=
  ∃ told, fs.toList = told.flatMap Failure.leaves ∧
    List.Forall₂ TellsOf told (noted.filter (reported mode))

section Accounts

variable {mode : Mode} {noted more : List FailedCall} {fs gs : Failures} {c : Call} {f : Failure}

theorem accounts_nil (mode : Mode) : Accounts mode [] .none :=
  ⟨[], rfl, .nil⟩

theorem accounts_missing (hc : c.mayMiss = true) (hf : mode.isMissing f = true) :
    Accounts mode [⟨c, f⟩] .none := by
  refine ⟨[], rfl, ?_⟩
  rw [List.filter_cons_of_neg (by simp [reported, hc, hf])]
  exact .nil

theorem accounts_reported (h : c.mayMiss = false ∨ mode.isMissing f = false) (context : String) :
    Accounts mode [⟨c, f⟩] (.of (.during context f)) := by
  refine ⟨[.during context f], ?_, ?_⟩
  · rw [Failures.of, Failures.toList_push]
    simp
  · rw [List.filter_cons_of_pos (by rcases h with h | h <;> simp [reported, h])]
    exact .cons ⟨context, rfl⟩ .nil

theorem Accounts.append (h : Accounts mode noted fs) (h' : Accounts mode more gs) :
    Accounts mode (noted ++ more) (fs ++ gs) := by
  obtain ⟨told, hfs, hnoted⟩ := h
  obtain ⟨told', hgs, hmore⟩ := h'
  refine ⟨told ++ told', ?_, ?_⟩
  · rw [List.flatMap_append, ← hfs, ← hgs]
    rfl
  · rw [List.filter_append]
    exact List.rel_append hnoted hmore

end Accounts

/-! ## The steps of a group -/

/-- However the calls are answered, what a program makes of its value accounts for the calls that
fail. -/
def Reports {α : Type} (mode : Mode) (p : Program α) (failures : α → Failures) : Prop :=
  p.AllRuns fun noted a => Accounts mode noted (failures a)

theorem reports_gather {α : Type} {mode : Mode} {act : α → Program Failures} {xs : List α}
    (h : ∀ x ∈ xs, Reports mode (act x) id) : Reports mode (gather act xs) id := by
  induction xs with
  | nil => exact accounts_nil mode
  | cons x xs ih =>
      refine AllRuns.bind (h x (by simp)) fun noted first hfirst => ?_
      refine AllRuns.bind (ih fun y hy => h y (by simp [hy])) fun more rest hrest => ?_
      rw [allRuns_pure, List.append_nil]
      exact hfirst.append hrest

section Steps

variable (mode : Mode) (g : GroupSpec)

theorem reports_createOrUpdateGroup :
    Reports mode (createOrUpdateGroup mode g) Failures.none.record := by
  rw [Reports, createOrUpdateGroup, emit_bind, ask_bind, allRuns_log, allRuns_call]
  intro reply
  cases reply with
  | error f =>
      by_cases hmissing : mode.isMissing f = true
      · have hlookup : Accounts mode [⟨.getGroup g.emailId, f⟩] .none :=
          accounts_missing rfl hmissing
        simp only [hmissing, if_true]
        split
        · intro created
          cases created with
          | error f' => exact hlookup.append (accounts_reported (.inl rfl) _)
          | ok u => exact hlookup
        · exact hlookup
      · simp only [hmissing]
        exact accounts_reported (.inr (by simpa using hmissing)) _
  | ok current =>
      dsimp only
      split
      · split
        · intro updated
          cases updated with
          | error f => exact accounts_reported (.inl rfl) _
          | ok u => exact accounts_nil mode
        · exact accounts_nil mode
      · exact accounts_nil mode

theorem reports_warnUnknown (group : String) (keys : List String) :
    Reports mode (warnUnknown group keys) fun _ => .none := by
  induction keys with
  | nil => exact accounts_nil mode
  | cons key keys ih => exact ih

theorem reports_updateSettings : Reports mode (updateSettings mode g) Failures.none.record := by
  rw [Reports, updateSettings, emit_bind, ask_bind, allRuns_log, allRuns_call]
  intro reply
  cases reply with
  | error f =>
      by_cases hmissing : mode.isMissing f = true
      · simp only [hmissing, if_true]
        exact accounts_missing rfl hmissing
      · simp only [hmissing]
        exact accounts_reported (.inr (by simpa using hmissing)) _
  | ok current =>
      refine AllRuns.bind (reports_warnUnknown mode _ _) fun noted _ hnoted => ?_
      split
      · exact hnoted.append (accounts_nil mode)
      · split
        · intro patched
          cases patched with
          | error f => exact hnoted.append (accounts_reported (.inl rfl) _)
          | ok u => exact hnoted.append (accounts_nil mode)
        · exact hnoted.append (accounts_nil mode)

/-- What is to be told of an attempt to list members. -/
def listingFailures : Except Failure (Option (List Member)) → Failures
  | .error f => .of f
  | .ok _ => .none

theorem reports_listMembers (activity : Activity) :
    Reports mode (listMembers mode g activity) listingFailures := by
  rw [Reports, listMembers, ask_bind, allRuns_call]
  intro reply
  cases reply with
  | error f =>
      by_cases hmissing : mode.isMissing f = true
      · simp only [hmissing, if_true]
        exact accounts_missing rfl hmissing
      · simp only [hmissing]
        exact accounts_reported (.inr (by simpa using hmissing)) _
  | ok ms => exact accounts_nil mode

/-- Listing members, and doing something for some of them. -/
theorem reports_forListed {α : Type} (activity : Activity)
    {act : List Member → α → Program Failures} (items : List Member → List α)
    (hact : ∀ ms x, Reports mode (act ms x) id) :
    Reports mode (do
      match ← listMembers mode g activity with
      | .error f => return .of f
      | .ok none => return .none
      | .ok (some ms) => gather (act ms) (items ms)) id := by
  refine AllRuns.bind (reports_listMembers mode g activity) fun noted listed hnoted => ?_
  rcases listed with f | _ | ms
  · rw [allRuns_pure, List.append_nil]
    exact hnoted
  · exact hnoted.append (accounts_nil mode)
  · exact AllRuns.mono (fun more fs hmore => hnoted.append hmore)
      (reports_gather fun x _ => hact ms x)

theorem reports_placeMember (role : Role) (current : List Member) (email : String) :
    Reports mode (placeMember mode g role current email) id := by
  rw [placeMember]
  split
  · split
    · exact accounts_nil mode
    · rw [changeRole]
      split
      · intro updated
        cases updated with
        | error f => exact accounts_reported (.inl rfl) _
        | ok u => exact accounts_nil mode
      · exact accounts_nil mode
  · rw [addMember]
    split
    · intro created
      cases created with
      | error f => exact accounts_reported (.inl rfl) _
      | ok u => exact accounts_nil mode
    · exact accounts_nil mode

theorem reports_removeMember (m : Member) : Reports mode (removeMember mode g m) id := by
  rw [removeMember]
  split
  · intro deleted
    cases deleted with
    | error f => exact accounts_reported (.inl rfl) _
    | ok u => exact accounts_nil mode
  · exact accounts_nil mode

theorem reports_addOrUpdateMembers (role : Role) (emails : List String) :
    Reports mode (addOrUpdateMembers mode g role emails) id :=
  reports_forListed mode g _ (fun _ => emails) (reports_placeMember mode g role)

theorem reports_removeOthers : Reports mode (removeOthers mode g) id := by
  have hremove : ∀ keep removable, Reports mode (removeUnlisted mode g keep removable) id :=
    fun keep removable => reports_forListed mode g _ _ fun _ => reports_removeMember mode g
  rw [removeOthers]
  split
  · exact hremove _ _
  · exact hremove _ _

end Steps

/-! ## All groups -/

/-- What is to be told of groups without an address, once of each. -/
def missingAddresses (gs : List GroupSpec) : List Failure :=
  (gs.filter (·.emailId.isEmpty)).map fun g => .because (.problem (.missingEmailId g.name))

/-- Failures that tell of groups without an address and of failed calls, in some order. -/
def Complete (mode : Mode) (gs : List GroupSpec) (noted : List FailedCall) (fs : List Failure) :
    Prop :=
  ∃ told, fs.Perm (missingAddresses gs ++ told.flatMap Failure.leaves) ∧
    List.Forall₂ TellsOf told (noted.filter (reported mode))

section Complete

variable {mode : Mode} {gs hs : List GroupSpec} {noted more : List FailedCall}
  {fs fs' : List Failure}

theorem complete_nil (mode : Mode) : Complete mode [] [] [] :=
  ⟨[], .refl _, .nil⟩

theorem missingAddresses_append (gs hs : List GroupSpec) :
    missingAddresses (gs ++ hs) = missingAddresses gs ++ missingAddresses hs := by
  rw [missingAddresses, List.filter_append, List.map_append]
  rfl

theorem Accounts.complete {fs : Failures} (h : Accounts mode noted fs)
    (hgs : missingAddresses gs = []) : Complete mode gs noted fs.toList := by
  obtain ⟨told, hfs, hnoted⟩ := h
  exact ⟨told, .of_eq (by rw [hfs, hgs, List.nil_append]), hnoted⟩

theorem Complete.append (h : Complete mode gs noted fs) (h' : Complete mode hs more fs') :
    Complete mode (gs ++ hs) (noted ++ more) (fs ++ fs') := by
  obtain ⟨told, hfs, hnoted⟩ := h
  obtain ⟨told', hfs', hmore⟩ := h'
  refine ⟨told ++ told', ?_, ?_⟩
  · refine (hfs.append hfs').trans ?_
    rw [missingAddresses_append, List.flatMap_append, List.append_assoc, List.append_assoc]
    refine .append_left _ ?_
    rw [← List.append_assoc, ← List.append_assoc]
    exact .append_right _ List.perm_append_comm
  · rw [List.filter_append]
    exact List.rel_append hnoted hmore

end Complete

section Groups

variable (mode : Mode)

theorem allRuns_reconcileGroup (g : GroupSpec) :
    (reconcileGroup mode g).AllRuns fun noted fs => Complete mode [g] noted fs.toList := by
  rw [reconcileGroup]
  split
  · next hempty =>
    rw [allRuns_pure]
    refine ⟨[], ?_, .nil⟩
    simp [missingAddresses, hempty, Failures.of, Failures.toList_push, Failure.leaves,
      Failure.several?]
  · next hempty =>
    refine AllRuns.bind (reports_createOrUpdateGroup mode g) fun _ created hcreated => ?_
    refine AllRuns.bind (reports_updateSettings mode g) fun _ patched hpatched => ?_
    refine AllRuns.bind (reports_addOrUpdateMembers mode g .owner _) fun _ owners howners => ?_
    refine AllRuns.bind (reports_addOrUpdateMembers mode g .manager _)
      fun _ managers hmanagers => ?_
    refine AllRuns.bind (reports_addOrUpdateMembers mode g .member _) fun _ members hmembers => ?_
    refine AllRuns.bind (reports_removeOthers mode g) fun _ removed hremoved => ?_
    have hgroup := ((((hcreated.append hpatched).append howners).append hmanagers).append
      hmembers).append hremoved
    rw [← Failures.record_eq_append] at hgroup
    have hnamed : missingAddresses [g] = [] := by simp [missingAddresses, hempty]
    simpa only [allRuns_pure, List.append_nil, List.append_assoc, id_eq] using
      hgroup.complete hnamed

theorem reports_deleteOrphans (wanted : List GroupSpec) :
    Reports mode (deleteOrphans mode wanted) id := by
  rw [deleteOrphans, ask_bind]
  intro reply
  cases reply with
  | error f => exact accounts_reported (.inl rfl) _
  | ok current =>
      refine reports_gather fun group _ => ?_
      rw [removeOrphan]
      split
      · intro deleted
        cases deleted with
        | error f => exact accounts_reported (.inl rfl) _
        | ok u => exact accounts_nil mode
      · exact accounts_nil mode

theorem allRuns_sequence (gs : List GroupSpec) :
    (Program.sequence (gs.map (reconcileGroup mode))).AllRuns fun noted all =>
      Complete mode gs noted (all.flatMap (·.toList)) := by
  induction gs with
  | nil => exact complete_nil mode
  | cons g gs ih =>
      refine AllRuns.bind (allRuns_reconcileGroup mode g) fun noted fs hfs => ?_
      refine AllRuns.bind ih fun more all hall => ?_
      rw [allRuns_pure, List.append_nil, List.flatMap_cons]
      exact hfs.append hall

theorem allRuns_emitAll {P : List FailedCall → Unit → Prop} (h : P [] ()) (events : List Event) :
    (emitAll events).AllRuns P := by
  induction events with
  | nil => exact h
  | cons e events ih => exact ih

theorem allRuns_reconcileGroups (workers : Nat) (gs : List GroupSpec) :
    (reconcileGroups mode workers gs).AllRuns fun noted fs => Complete mode gs noted fs.toList := by
  refine AllRuns.bind (allRuns_emitAll (P := fun noted _ => noted = []) rfl _) fun _ _ hnone => ?_
  subst hnone
  refine AllRuns.bind (allRuns_sequence mode (dedup gs)) fun noted all hall => ?_
  refine AllRuns.bind (reports_deleteOrphans mode gs) fun more rest hrest => ?_
  rw [allRuns_pure, List.append_nil]
  have hall' := hall.append (hrest.complete (show missingAddresses [] = [] from rfl))
  rw [List.append_nil, Complete, missingAddresses, filter_dedup] at hall'
  rwa [List.nil_append, Failures.toList_append, toList_joinFailures]

end Groups

/-! ## Whole runs -/

section ReconcileTimed

theorem leaves_of_tellsOf {f : Failure} {x : FailedCall} (h : TellsOf f x)
    (hx : x.failure.several? = none) : f.leaves = [f] := by
  obtain ⟨context, rfl⟩ := h
  rw [Failure.leaves, Failure.several?, hx]
  rfl

theorem flatMap_leaves_of_tellsOf {told : List Failure} {noted : List FailedCall}
    (h : List.Forall₂ TellsOf told noted) (hnoted : ∀ x ∈ noted, x.failure.several? = none) :
    told.flatMap Failure.leaves = told := by
  induction h with
  | nil => rfl
  | cons hf _ ih =>
      obtain ⟨hx, hrest⟩ := List.forall_mem_cons.mp hnoted
      rw [List.flatMap_cons, leaves_of_tellsOf hf hx, ih hrest]
      rfl

/-- Whatever clients answer, as long as no answer is several failures at once: a run that ends has
succeeded if no group lacks an address and no call failed that is to be told of. If not, it reports
exactly the groups without an address and those calls, once each. Without a deadline a run ends. -/
theorem reconcileTimed_reports {σ : Type} {client : Client σ}
    (hclient : ∀ c s f, (client c s).1 = .error f → f.several? = none) (mode : Mode)
    (gs : List GroupSpec) (workers delay : Nat) (deadline : Option Nat) (s : σ) :
    let out := reconcileTimed client.audited delay deadline mode workers gs (s, [])
    let toTell := out.state.2.filter (reported mode)
    (deadline = none → out.value.isSome) ∧
    ∀ fs, out.value = some fs →
      (fs.result = .ok () ↔ missingAddresses gs = [] ∧ toTell = []) ∧
      (fs.result ≠ .ok () → fs.result = .error fs) ∧
      ∃ told, List.Forall₂ TellsOf told toTell ∧
        fs.toList.Perm (missingAddresses gs ++ told) := by
  refine ⟨fun hnone => by subst hnone; exact isSome_reconcileTimed, fun fs hfs => ?_⟩
  obtain ⟨hstate, hperm⟩ := reconcileTimed_completed hfs
  rw [hstate, run_audited, List.nil_append]
  rw [run_audited] at hperm
  obtain ⟨told, hcomplete, htold⟩ := (allRuns_reconcileGroups mode workers gs).run client s
  have hsingle : ∀ x ∈ ((reconcileGroups mode workers gs).failed client s).filter (reported mode),
      x.failure.several? = none := by
    intro x hx
    obtain ⟨t, hreply⟩ := exists_reply_of_mem_failed (List.mem_filter.mp hx).1
    exact hclient _ t _ hreply
  rw [flatMap_leaves_of_tellsOf htold hsingle] at hcomplete
  have hall := hperm.trans hcomplete
  have hnothing : told = [] ↔
      ((reconcileGroups mode workers gs).failed client s).filter (reported mode) = [] := by
    rw [← List.length_eq_zero_iff, ← List.length_eq_zero_iff, htold.length_eq]
  refine ⟨?_, Failures.result_eq_error_of_ne, told, htold, hall⟩
  rw [Failures.result_eq_ok_iff, Failures.eq_none_iff, ← hnothing, ← List.append_eq_nil_iff]
  exact ⟨fun hnil => List.perm_nil.mp (hnil ▸ hall.symm),
    fun hnil => List.perm_nil.mp (hnil ▸ hall)⟩

end ReconcileTimed

/-! ## A directory that fails -/

theorem several?_of_findMember {d : Directory} {a id : String} {f : Failure}
    (h : d.findMember a id = .error f) : f.several? = none := by
  simp only [Directory.findMember] at h
  split at h
  · cases h
    rfl
  · split at h
    · simp at h
    · cases h
      rfl

/-- A directory in memory gives single failures only. -/
theorem several?_of_client {c : Call} {d : Directory} {f : Failure}
    (h : (Directory.client c d).1 = .error f) : f.several? = none := by
  cases c <;>
    simp only [Directory.client, Directory.getGroup, Directory.listGroups, Directory.insertGroup,
      Directory.updateGroup, Directory.deleteGroup, Directory.listMembers, Directory.insertMember,
      Directory.updateMember, Directory.deleteMember, Directory.getSettings,
      Directory.patchSettings] at h <;>
    repeat' split at h
  -- A success is no failure, and a failure is given as it is or comes from looking for a member.
  all_goals first
    | (cases h; done)
    | (cases h; rfl)
    | (cases h; exact several?_of_findMember ‹_›)

/-- A group that cannot be looked up, one without an address, and one with an owner who cannot be
added. -/
def failingRoster : List GroupSpec := [
  { GroupSpec.blank with emailId := "new@x.io", members := ["cid@x.io"] },
  { GroupSpec.blank with name := "Nameless" },
  { GroupSpec.blank with emailId := "team@x.io", owners := ["ann@x.io"] }]

def failingDirectory : Directory :=
  (sampleDirectory.withFailingGroup "new@x.io").withFailingMember "ann@x.io"

/-- All that goes wrong there is reported, but not that the members of the missing group cannot be
listed. -/
theorem failing_reports :
    let out := reconcileTimed Directory.client.audited failingDirectory.lookupDelay none
      (Directory.mode true) 2 failingRoster (failingDirectory, [])
    ∃ fs, out.value = some fs ∧ fs.result = .error fs ∧
      ∃ told, List.Forall₂ TellsOf told
          (out.state.2.filter (reported (Directory.mode true))) ∧
        fs.toList.Perm (missingAddresses failingRoster ++ told) := by
  obtain ⟨hends, hall⟩ := reconcileTimed_reports (fun _ _ _ => several?_of_client)
    (Directory.mode true) failingRoster 2 failingDirectory.lookupDelay none failingDirectory
  obtain ⟨fs, hfs⟩ := Option.isSome_iff_exists.mp (hends rfl)
  obtain ⟨hok, herror, hreports⟩ := hall fs hfs
  refine ⟨fs, hfs, herror fun hsuccess => ?_, hreports⟩
  simpa [missingAddresses, failingRoster, GroupSpec.blank] using (hok.mp hsuccess).1

end Reconcile

end GroupKeeper
