import GroupKeeper.Proofs.Reconcile.Operations
import GroupKeeper.Proofs.Reconcile.Reports

/-! Adding members, whoever answers. The addresses are gone through one by one against the list that
was read first. What is attempted for an address depends on that list alone, and not on what became
of the attempts before it. -/

namespace GroupKeeper.Reconcile

open Directory Program

/-- The first member on a list who has the mailbox of an address. -/
def FirstOf (listed : List Member) (email : String) (m : Member) : Prop :=
  ∃ front back, listed = front ++ m :: back ∧ Email.equals m.email email = true ∧
    ∀ x ∈ front, Email.equals x.email email = false

/-- What is attempted so that an address is under a role, given the members of the group: nothing if
the first member with the mailbox has the role, else a change of that member's role, and an
insertion if nobody has the mailbox. -/
inductive CallsFor (g : GroupSpec) (role : Role) (listed : List Member) (email : String) :
    Option Call → Prop where
  | settled {m : Member} : FirstOf listed email m → m.role = role →
      CallsFor g role listed email none
  | update {m : Member} : FirstOf listed email m → m.role ≠ role →
      CallsFor g role listed email (some (.updateMember g.emailId m.id { m with role }))
  | insert : (∀ m ∈ listed, Email.equals m.email email = false) →
      CallsFor g role listed email (some (.insertMember g.emailId ⟨"", email, role⟩))

/-- The call that the plan has for an address. -/
def callFor? (g : GroupSpec) (role : Role) (listed : List Member) (email : String) : Option Call :=
  (placementPlan g role listed email).head?.map (·.call)

section Calls

variable {g : GroupSpec} {role : Role} {listed : List Member} {email : String} {m : Member}

theorem mailbox?_eq_some_iff : mailbox? listed email = some m ↔ FirstOf listed email m := by
  refine ⟨mailbox?_eq_some, ?_⟩
  rintro ⟨front, back, rfl, hm, hfront⟩
  exact mailbox?_of_front hm hfront

theorem placementPlan_calls :
    (placementPlan g role listed email).map (·.call) = (callFor? g role listed email).toList := by
  rw [callFor?, placementPlan]
  split
  · split <;> rfl
  · rfl

theorem callsFor_iff {call : Option Call} :
    CallsFor g role listed email call ↔ call = callFor? g role listed email := by
  constructor
  · rintro (⟨hfirst, hrole⟩ | ⟨hfirst, hrole⟩ | hnone)
    · rw [callFor?, placementPlan, mailbox?_eq_some_iff.mpr hfirst]
      simp [hrole]
    · rw [callFor?, placementPlan, mailbox?_eq_some_iff.mpr hfirst]
      simp [hrole]
    · rw [callFor?, placementPlan, mailbox?_eq_none_iff.mpr hnone]
      rfl
  · rintro rfl
    rw [callFor?, placementPlan]
    split
    · next m hfirst =>
      split
      · next hrole => exact .settled (mailbox?_eq_some_iff.mp hfirst) hrole
      · next hrole => exact .update (mailbox?_eq_some_iff.mp hfirst) hrole
    · next hnone => exact .insert (mailbox?_eq_none_iff.mp hnone)

theorem forall₂_callsFor (emails : List String) :
    List.Forall₂ (CallsFor g role listed) emails (emails.map (callFor? g role listed)) := by
  rw [List.forall₂_map_right_iff, List.forall₂_same]
  exact fun email _ => callsFor_iff.mpr rfl

theorem calls_placements (emails : List String) :
    (emails.flatMap (placementPlan g role listed)).map (·.call) =
      (emails.map (callFor? g role listed)).reduceOption := by
  induction emails with
  | nil => rfl
  | cons email emails ih =>
      rw [List.flatMap_cons, List.map_append, placementPlan_calls, ih, List.map_cons]
      cases callFor? g role listed email <;> rfl

end Calls

section Told

variable {mode : Mode} {g : GroupSpec} {role : Role} {emails : List String} {σ : Type}
  {client : Client σ} {s : σ}

theorem told_addOrUpdateMembers {listed : List Member}
    (hreply : (client (.listMembers g.emailId) s).1 = .ok listed) :
    ∃ told, List.Forall₂ TellsOf told ((addOrUpdateMembers mode g role emails).failed client s) ∧
      ((addOrUpdateMembers mode g role emails).run client s).value = .ofList told := by
  obtain ⟨told, hvalue, htold⟩ := (reports_addOrUpdateMembers mode g role emails).run client s
  obtain ⟨rest, hfailed, hrest⟩ :=
    (follows_addOrUpdateMembers mode g role emails).asks.failed client s
  rw [hreply] at hfailed
  -- The members could be listed, so that only changes failed, and of these each is told of.
  have hall : ∀ x ∈ (addOrUpdateMembers mode g role emails).failed client s,
      reported mode x = true := by
    intro x hx
    rw [hfailed] at hx
    obtain ⟨-, hchanging⟩ := hrest x hx
    rw [reported, Call.mayMiss_of_isMutating hchanging]
    rfl
  rw [List.filter_eq_self.mpr hall] at htold
  exact ⟨told, htold, Failures.ext_toList (hvalue.trans (Failures.toList_ofList told).symm)⟩

theorem value_addOrUpdateMembers_of_error {f : Failure}
    (hreply : (client (.listMembers g.emailId) s).1 = .error f) :
    ((addOrUpdateMembers mode g role emails).run client s).value =
      if mode.isMissing f then .none
      else .of (.during ("unable to retrieve members in group " ++ Text.quote g.emailId) f) := by
  rw [addOrUpdateMembers, emit_bind, run_log, listMembers, ask_bind, call_bind, run_call, hreply]
  dsimp only
  split <;> rfl

end Told

/-- Adding members with confirmation, whatever counts as missing, whoever answers, and whichever
calls fail. If the members could be listed, each address has the call that it should have, in the
order of the addresses. Every call that fails is told of, once and in order, and if none does the
operation succeeds. A collection of failures takes several failures at once apart; if no answer is
such a one, there is one failure for each failed call, and no success if there is any. If the
members could not be listed, nothing is attempted, and the operation succeeds if that says the group
is missing, and else has that one failure. -/
theorem addOrUpdateMembers_exact (isMissing : Failure → Bool) (g : GroupSpec) (role : Role)
    (emails : List String) {σ : Type} (client : Client σ) (s : σ) :
    let p := addOrUpdateMembers ⟨true, isMissing⟩ g role emails
    let value := (p.run client s).value
    (∀ listed, (client (.listMembers g.emailId) s).1 = .ok listed →
      (∃ wanted, List.Forall₂ (CallsFor g role listed) emails wanted ∧
        p.calls client s = .listMembers g.emailId :: wanted.reduceOption) ∧
      ∃ told, List.Forall₂ TellsOf told (p.failed client s) ∧ value = .ofList told ∧
        (p.failed client s = [] → value.result = .ok ()) ∧
        ((∀ x ∈ p.failed client s, x.failure.several? = none) →
          value.toList = told ∧ (value.result = .ok () ↔ p.failed client s = []))) ∧
    ∀ f, (client (.listMembers g.emailId) s).1 = .error f →
      p.calls client s = [.listMembers g.emailId] ∧
      (isMissing f = true → value.result = .ok ()) ∧
      (isMissing f = false → value =
        .of (.during ("unable to retrieve members in group " ++ Text.quote g.emailId) f)) := by
  intro p value
  have hcalls := (follows_addOrUpdateMembers ⟨true, isMissing⟩ g role emails).calls_of_confirmed rfl
    client s
  constructor
  · intro listed hreply
    rw [hreply, additionPlan, planAfter, calls_placements] at hcalls
    obtain ⟨told, htold, hvalue⟩ := told_addOrUpdateMembers hreply
    refine ⟨⟨_, forall₂_callsFor emails, hcalls⟩, told, htold, hvalue, fun hnone => ?_,
      fun hsingle => ?_⟩
    · rw [hnone] at htold
      cases htold
      rw [Failures.result_eq_ok_iff]
      exact hvalue
    · have hlist : value.toList = told := (congrArg Failures.toList hvalue).trans
        ((Failures.toList_ofList told).trans (flatMap_leaves_of_tellsOf htold hsingle))
      refine ⟨hlist, ?_⟩
      rw [Failures.result_eq_ok_iff, Failures.eq_none_iff, hlist, ← List.length_eq_zero_iff,
        htold.length_eq, List.length_eq_zero_iff]
  · intro f hreply
    rw [hreply] at hcalls
    have hvalue : value = _ := value_addOrUpdateMembers_of_error hreply
    refine ⟨hcalls, fun hmissing => ?_, fun hpresent => ?_⟩
    · rw [hvalue, if_pos hmissing]
      rfl
    · rw [hvalue, if_neg (by simp [hpresent])]

/-- The owner is passed over, the new address fails, and the mailbox is still changed under the id
of its first spelling. One failure is told. -/
theorem aliased_additions :
    let d := aliasedDirectory.withFailingMember "eve@x.io"
    let listed : List Member := [⟨"2", "annlee@x.io", .member⟩, ⟨"3", "ann.lee@x.io", .owner⟩,
      ⟨"4", "dan@x.io", .owner⟩]
    let addresses := ["dan@x.io", "eve@x.io", "Ann.Lee@x.io"]
    let p := addOrUpdateMembers ⟨true, Directory.isMissing⟩ aliasedSpec .owner addresses
    (p.failed client d).map (·.call) = [.insertMember "Team@x.io" ⟨"", "eve@x.io", .owner⟩] ∧
    (∃ wanted, List.Forall₂ (CallsFor aliasedSpec .owner listed) addresses wanted ∧
      p.calls client d = .listMembers "Team@x.io" :: wanted.reduceOption) ∧
    ∃ told, List.Forall₂ TellsOf told (p.failed client d) ∧ (p.run client d).value.toList = told ∧
      (p.run client d).value.result ≠ .ok () := by
  intro d listed addresses p
  have hlisted : (client (.listMembers aliasedSpec.emailId) d).1 = .ok listed := rfl
  obtain ⟨hwanted, told, htold, -, -, hall⟩ :=
    (addOrUpdateMembers_exact Directory.isMissing aliasedSpec .owner addresses client d).1 listed
      hlisted
  have hfailed : (p.failed client d).map (·.call) =
      [.insertMember "Team@x.io" ⟨"", "eve@x.io", .owner⟩] := by decide +kernel
  obtain ⟨hlist, hresult⟩ := hall fun x hx => by
    obtain ⟨t, hreply⟩ := exists_reply_of_mem_failed hx
    exact several?_of_client hreply
  refine ⟨hfailed, hwanted, told, htold, hlist, fun hok => ?_⟩
  rw [show p.failed client d = [] from hresult.mp hok] at hfailed
  cases hfailed

end GroupKeeper.Reconcile
