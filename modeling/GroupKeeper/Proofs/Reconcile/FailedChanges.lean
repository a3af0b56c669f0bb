import GroupKeeper.Proofs.Directory.Membership
import GroupKeeper.Proofs.Reconcile.Announcements
import GroupKeeper.Proofs.Reconcile.RoleChanges

/-! What becomes of a member whose role was to be changed. After all addresses have been placed the
members are listed again, and it depends on the role that is found then whether the member goes. -/

namespace GroupKeeper.Reconcile

open Program

variable {σ : Type} {client : Client σ} {g : GroupSpec}

/-! ## Removing members -/

section Removing

variable {M : Membership client g.emailId} {s : σ} {mode : Mode} {id : String}

/-- The last attempt to list the members of a group did not fail. -/
def ListedLast (key : String) (as : List Attempt) : Prop :=
  (as.filter (·.call = .listMembers key)).getLast? = some ⟨.listMembers key, false⟩

theorem listedLast_append_cons {key : String} {front back : List Attempt} {failed : Bool}
    (hback : ∀ a ∈ back, a.call ≠ .listMembers key) :
    ListedLast key (front ++ ⟨.listMembers key, failed⟩ :: back) ↔ failed = false := by
  have hnone : back.filter (·.call = .listMembers key) = [] := by
    rw [List.filter_eq_nil_iff]
    intro a ha
    simpa using hback a ha
  simp [ListedLast, hnone]

theorem deletes_removeOthers (hmode : mode.confirm = true) :
    .deleteMember g.emailId id ∈ (removeOthers mode g).calls client s ↔
      ∃ ms, (client (.listMembers g.emailId) s).1 = .ok ms ∧
        ∃ m ∈ ms, m.id = id ∧ goes g m = true := by
  have hchanging : .deleteMember g.emailId id ∈ (removeOthers mode g).calls client s ↔
      .deleteMember g.emailId id ∈
        ((removeOthers mode g).calls client s).filter (·.isMutating) := by
    rw [List.mem_filter]
    exact (and_iff_left rfl).symm
  rw [hchanging, changing_calls, effects_removeOthers, changing_effects hmode]
  cases (client (.listMembers g.emailId) s).1 with
  | error f => simp [planAfter]
  | ok ms =>
      constructor
      · intro hdelete
        obtain ⟨p, hp, hcall⟩ := List.mem_map.mp hdelete
        obtain ⟨m, hm, rfl⟩ := List.mem_map.mp hp
        obtain ⟨hm, hgoes⟩ := List.mem_filter.mp hm
        obtain ⟨-, hid⟩ := Call.deleteMember.inj hcall
        exact ⟨ms, rfl, m, hm, hid, hgoes⟩
      · rintro ⟨ms', hreply, m, hm, rfl, hgoes⟩
        obtain rfl := Except.ok.inj hreply
        have hmem : removal g m ∈ (ms.filter (goes g)).map (removal g) :=
          List.mem_map.mpr ⟨m, List.mem_filter.mpr ⟨hm, hgoes⟩, rfl⟩
        exact List.mem_map.mpr ⟨_, hmem, rfl⟩

theorem deletes_removeOthers_iff (hmode : mode.confirm = true) (hs : M.valid s) {m : Member}
    (hid : m.id = id) (hm : M.member? s id = some m) :
    .deleteMember g.emailId id ∈ (removeOthers mode g).calls client s ↔
      (client (.listMembers g.emailId) s).1.isOk = true ∧ goes g m = true := by
  subst hid
  rw [deletes_removeOthers hmode]
  constructor
  · rintro ⟨ms, hreply, x, hx, hid, hgoes⟩
    rw [M.listed hs hreply, hid, hm] at hx
    obtain rfl := Option.some.inj hx
    exact ⟨by rw [hreply]; rfl, hgoes⟩
  · rintro ⟨hok, hgoes⟩
    cases hreply : (client (.listMembers g.emailId) s).1 with
    | error f => simp [hreply, Except.isOk, Except.toBool] at hok
    | ok ms => exact ⟨ms, rfl, m, (M.listed hs hreply m).mpr hm, rfl, hgoes⟩

/-- Of the members with a listed mailbox and another role, those go who are listed as mere members,
unless members are reconciled. -/
theorem goes_iff_of_mailbox (hg : g.Distinct) {role : Role} {a : String} {m : Member}
    (ha : a ∈ g.emails role) (hm : Email.equals m.email a = true) (hrole : m.role ≠ role) :
    goes g m = true ↔ g.reconcilesMembers = false ∧ role = .member := by
  cases hmode : g.reconcilesMembers with
  | true => simp [goes_eq_of_reconciles hmode, contains_of_mem_emails ha hm]
  | false =>
      rw [goes_eq_of_not_reconciles hmode]
      by_cases hmember : role = .member
      · subst hmember
        simp [hrole, not_contains_of_member hg ha hm]
      · simp [hmember, contains_of_privileged ha hmember hm]

end Removing

/-! ## A whole run -/

section Run

variable {M : Membership client g.emailId} {s : σ} {mode : Mode} {id : String}

/-- A call that neither changes a role nor removes a member. -/
def Spares (key : String) (c : Call) : Prop :=
  ∀ i, c.updates key i = false ∧ c ≠ .deleteMember key i

theorem spares_createOrUpdateGroup : (createOrUpdateGroup mode g).AllCalls (Spares g.emailId) := by
  refine AllCalls.createOrUpdateGroup ?_ ?_ ?_
  · exact fun i => ⟨rfl, Call.noConfusion⟩
  · exact fun _ i => ⟨rfl, Call.noConfusion⟩
  · exact fun _ i => ⟨rfl, Call.noConfusion⟩

theorem spares_updateSettings : (updateSettings mode g).AllCalls (Spares g.emailId) := by
  refine AllCalls.updateSettings ?_ ?_
  · exact fun i => ⟨rfl, Call.noConfusion⟩
  · exact fun _ _ i => ⟨rfl, Call.noConfusion⟩

theorem keeps_addOrUpdateMembers (role : Role) (emails : List String) (id : String) (s : σ) :
    ∀ x ∈ (addOrUpdateMembers mode g role emails).attempts client s,
      x.call ≠ .deleteMember g.emailId id := by
  refine AllCalls.attempts (P := (· ≠ .deleteMember g.emailId id)) ?_ s
  refine AllCalls.addOrUpdateMembers ?_ ?_ ?_ role emails
  · exact Call.noConfusion
  · exact fun _ _ => Call.noConfusion
  · exact fun _ _ _ => Call.noConfusion

/-- A run prepares the group, places the listed addresses, and only then removes members. -/
theorem outcome_reconcileGroup (hmode : mode.confirm = true) (hg : g.Distinct) (hs : M.valid s)
    (id : String) : ∃ s₁ s₂ front, M.valid s₂ ∧
      (reconcileGroup mode g).attempts client s =
        front ++ (removeOthers mode g).attempts client s₂ ∧
      Outcome M (Validation.listed g) id s₁ front s₂ ∧
      ∀ x ∈ front, x.call ≠ .deleteMember g.emailId id := by
  have hempty : ¬ g.emailId.isEmpty = true := by simpa using hg.named
  let prepare := createOrUpdateGroup mode g >>= fun _ => updateSettings mode g
  let place := fun role => addOrUpdateMembers mode g role (g.emails role)
  let s₁ := (prepare.run client s).state
  let s₂ := ((place .owner).run client s₁).state
  let s₃ := ((place .manager).run client s₂).state
  let s₄ := ((place .member).run client s₃).state
  have hs₁ : M.valid s₁ := M.valid_run _ hs
  have hs₂ : M.valid s₂ := M.valid_run _ hs₁
  have hs₃ : M.valid s₃ := M.valid_run _ hs₂
  have hspared : ∀ x ∈ prepare.attempts client s, Spares g.emailId x.call :=
    (spares_createOrUpdateGroup.bind fun _ => spares_updateSettings).attempts s
  have hnone : updatesOf g.emailId id (prepare.attempts client s) = [] := by
    rw [updatesOf, List.filter_eq_nil_iff]
    intro x hx
    simp [(hspared x hx id).1]
  -- Preparing the group counts as placing no address.
  have hprepared : Outcome M [] id s₁ (prepare.attempts client s) s₁ :=
    .untouched hnone fun x hx => hx
  obtain ⟨hhigh, hlow⟩ := apart_roles hg
  have howners := outcome_addOrUpdateMembers hmode hs₁ (hg.within .owner) id
  have hmanagers := outcome_addOrUpdateMembers hmode hs₂ (hg.within .manager) id
  have hmembers := outcome_addOrUpdateMembers hmode hs₃ (hg.within .member) id
  have hplaced := howners.append (hmanagers.append hmembers hlow) hhigh
  rw [← listed_eq] at hplaced
  refine ⟨s₁, s₄, _, M.valid_run _ hs₃, ?_, hprepared.append hplaced (by simp), ?_⟩
  · simp only [reconcileGroup, if_neg hempty, prepare, place, s₁, s₂, s₃, s₄, attempts_bind,
      run_bind, attempts_pure, List.append_nil, List.append_assoc]
  · simp only [List.forall_mem_append]
    refine ⟨fun x hx => (hspared x hx id).2, ?_, ?_, ?_⟩
    · exact keeps_addOrUpdateMembers _ _ id s₁
    · exact keeps_addOrUpdateMembers _ _ id s₂
    · exact keeps_addOrUpdateMembers _ _ id s₃

/-- Whoever is to be removed is so at the end, after a last look at the members. -/
theorem removal_reconcileGroup (hmode : mode.confirm = true) (hg : g.Distinct) (hs : M.valid s)
    (id : String) : ∃ s₁ s₂, M.valid s₂ ∧
      Outcome M (Validation.listed g) id s₁ ((reconcileGroup mode g).attempts client s) s₂ ∧
      (ListedLast g.emailId ((reconcileGroup mode g).attempts client s) ↔
        (client (.listMembers g.emailId) s₂).1.isOk = true) ∧
      (.deleteMember g.emailId id ∈ (reconcileGroup mode g).calls client s ↔
        .deleteMember g.emailId id ∈ (removeOthers mode g).calls client s₂) := by
  obtain ⟨s₁, s₂, front, hs₂, hattempts, hfront, hkept⟩ := outcome_reconcileGroup hmode hg hs id
  have hdeletions : AsksFirst (.listMembers g.emailId) (fun c => ∃ i, c = .deleteMember g.emailId i)
      (removeOthers mode g) := asksFirst_removeOthers fun _ i => ⟨i, rfl⟩
  obtain ⟨back, hremoving, hdeletes⟩ := hdeletions.attempts client s₂
  refine ⟨s₁, s₂, hs₂, ?_, ?_, ?_⟩
  · have hnone : updatesOf g.emailId id ((removeOthers mode g).attempts client s₂) = [] := by
      rw [hremoving, updatesOf, List.filter_eq_nil_iff, List.forall_mem_cons]
      refine ⟨by simp [Call.updates], fun x hx => ?_⟩
      obtain ⟨i, hcall⟩ := hdeletes x hx
      simp [hcall, Call.updates]
    have hremoved : Outcome M [] id s₂ ((removeOthers mode g).attempts client s₂) s₂ :=
      .untouched hnone fun x hx => hx
    have hall := hfront.append hremoved (by simp)
    rwa [List.append_nil, ← hattempts] at hall
  · rw [hattempts, hremoving, listedLast_append_cons, Bool.not_eq_false']
    intro x hx hcall
    obtain ⟨i, hdelete⟩ := hdeletes x hx
    exact Call.noConfusion (hcall.symm.trans hdelete)
  · rw [← map_call_attempts, hattempts, List.map_append, map_call_attempts, List.mem_append]
    refine or_iff_right fun hdelete => ?_
    obtain ⟨x, hx, hcall⟩ := List.mem_map.mp hdelete
    exact hkept x hx hcall

end Run

/-- A member whose role was to be changed is removed exactly if the change failed, the role was
that of a mere member, members are not reconciled, and the members could be listed at last. -/
theorem reconcileGroup_deletes_updated_iff (M : Membership client g.emailId) {s : σ}
    (hs : M.valid s)
    (hlists : Validation.memberProblems g.emailId [] (Validation.listed g) = [])
    (isMissing : Failure → Bool) {id : String} {m : Member} {failed : Bool}
    (hupdate : ⟨.updateMember g.emailId id m, failed⟩ ∈
      (reconcileGroup ⟨true, isMissing⟩ g).attempts client s) :
    .deleteMember g.emailId id ∈ (reconcileGroup ⟨true, isMissing⟩ g).calls client s ↔
      g.reconcilesMembers = false ∧ m.role = .member ∧ failed = true ∧
        ListedLast g.emailId ((reconcileGroup ⟨true, isMissing⟩ g).attempts client s) := by
  by_cases hnamed : g.emailId = ""
  · simp [reconcileGroup, hnamed] at hupdate
  have hg : g.Distinct := Validation.distinct_of_memberProblems hnamed hlists
  have hmode : (Mode.mk true isMissing).confirm = true := rfl
  obtain ⟨s₁, s₂, hs₂, houtcome, hlisted, hdelete⟩ := removal_reconcileGroup hmode hg hs id
  have hmem : ⟨.updateMember g.emailId id m, failed⟩ ∈ updatesOf g.emailId id
      ((reconcileGroup ⟨true, isMissing⟩ g).attempts client s) :=
    List.mem_filter.mpr ⟨hupdate, by simp [Call.updates]⟩
  cases houtcome with
  | untouched hnone => simp [hnone] at hmem
  | @tried role a x failed' hp hid hmail hrole _ hupdates hstate =>
      -- There is one attempt on the id only, so that it is this one.
      rw [hupdates, List.mem_singleton] at hmem
      obtain ⟨hcall, rfl⟩ := Attempt.mk.inj hmem
      obtain ⟨-, -, rfl⟩ := Call.updateMember.inj hcall
      have ha := mem_listed.mp hp
      have hstays : goes g { x with role } = false := goes_of_listed ha hmail rfl
      rw [hdelete, hlisted]
      cases failed with
      | true =>
          rw [deletes_removeOthers_iff hmode hs₂ hid hstate]
          rw [goes_iff_of_mailbox hg ha hmail hrole]
          tauto
      | false =>
          rw [deletes_removeOthers_iff hmode hs₂ (m := { x with role }) hid hstate, hstays]
          simp

/-! ## An owner who does not step down -/

section Stepping

open Directory

/-- Where the change succeeds, the member stays. -/
theorem stepping_not_deleted :
    (membership "team@x.io").valid steppingDirectory ∧
    Validation.memberProblems "team@x.io" [] (Validation.listed steppingSpec) = [] ∧
    ⟨.updateMember "team@x.io" "2" ⟨"2", "ann@x.io", .member⟩, false⟩ ∈
      (reconcileGroup (mode true) steppingSpec).attempts Directory.client steppingDirectory ∧
    .deleteMember "team@x.io" "2" ∉
      (reconcileGroup (mode true) steppingSpec).calls Directory.client steppingDirectory := by
  have hvalid := reachable_steppingDirectory.wellFormed
  have hlists : Validation.memberProblems "team@x.io" [] (Validation.listed steppingSpec) = [] :=
    rfl
  have hupdate : ⟨.updateMember "team@x.io" "2" ⟨"2", "ann@x.io", .member⟩, false⟩ ∈
      (reconcileGroup (mode true) steppingSpec).attempts Directory.client steppingDirectory := by
    decide +kernel
  refine ⟨hvalid, hlists, hupdate, fun hdelete => ?_⟩
  have hiff := reconcileGroup_deletes_updated_iff (g := steppingSpec) (membership "team@x.io")
    hvalid hlists isMissing hupdate
  exact Bool.false_ne_true (hiff.mp hdelete).2.2.1

/-- Where the change fails, the listed member is deleted, or would be if that did not fail too. -/
theorem failing_deleted :
    (membership "team@x.io").valid (steppingDirectory.withFailingMember "ann@x.io") ∧
    Validation.memberProblems "team@x.io" [] (Validation.listed steppingSpec) = [] ∧
    ⟨.updateMember "team@x.io" "2" ⟨"2", "ann@x.io", .member⟩, true⟩ ∈
      (reconcileGroup (mode true) steppingSpec).attempts Directory.client
        (steppingDirectory.withFailingMember "ann@x.io") ∧
    .deleteMember "team@x.io" "2" ∈
      (reconcileGroup (mode true) steppingSpec).calls Directory.client
        (steppingDirectory.withFailingMember "ann@x.io") := by
  refine ⟨(reachable_steppingDirectory.withFailingMember _).wellFormed, rfl, ?_, ?_⟩
  · decide +kernel
  · decide +kernel

end Stepping

end GroupKeeper.Reconcile
