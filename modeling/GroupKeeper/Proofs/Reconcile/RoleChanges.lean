import GroupKeeper.Proofs.Membership
import GroupKeeper.Proofs.Reconcile.Group

/-! Changes of roles while listed addresses are placed, whatever fails. Nobody's role is tried to be
changed twice, and a member has the new role afterwards exactly if the one attempt did not fail. -/

namespace GroupKeeper

/-- Whether a call is meant to change the role of the member under an id. -/
def Call.updates (key id : String) : Call → Bool
  | .updateMember k i _ => k == key && i == id
  | _ => false

namespace Reconcile

open Program

variable {σ : Type} {client : Client σ} {g : GroupSpec}

def updatesOf (key id : String) (as : List Attempt) : List Attempt :=
  as.filter (·.call.updates key id)

@[simp] theorem updatesOf_append (key id : String) (as bs : List Attempt) :
    updatesOf key id (as ++ bs) = updatesOf key id as ++ updatesOf key id bs :=
  List.filter_append ..

/-! ## Placing addresses, one member at a time -/

/-- What placing addresses comes to for the member under an id. Either nobody tries to change the
role, or this is tried once, for one of the addresses. -/
inductive Outcome (M : Membership client g.emailId) (ps : List (Role × String)) (id : String)
    (s : σ) (as : List Attempt) (s' : σ) : Prop where
  | untouched : updatesOf g.emailId id as = [] →
      (∀ x, M.member? s id = some x → M.member? s' id = some x) → Outcome M ps id s as s'
  | tried {role : Role} {a : String} {m : Member} {failed : Bool} :
      (role, a) ∈ ps → m.id = id → Email.equals m.email a = true → m.role ≠ role →
      (∀ x, M.member? s id = some x → x.email = m.email) →
      updatesOf g.emailId id as = [⟨.updateMember g.emailId id { m with role }, failed⟩] →
      M.member? s' id = some (if failed then m else { m with role }) → Outcome M ps id s as s'

section Placing

variable {M : Membership client g.emailId} {ps qs : List (Role × String)} {id : String}
  {s s' s'' : σ} {as bs : List Attempt} {mode : Mode} {role : Role} {ms : List Member}

theorem Outcome.append (h : Outcome M ps id s as s') (h' : Outcome M qs id s' bs s'')
    (hne : ∀ p ∈ ps, ∀ q ∈ qs, Email.equals p.2 q.2 = false) :
    Outcome M (ps ++ qs) id s (as ++ bs) s'' := by
  cases h with
  | untouched hnone hsame =>
      cases h' with
      | untouched hnone' hsame' =>
          exact .untouched (by simp [hnone, hnone']) fun x hx => hsame' x (hsame x hx)
      | tried hp hid hm hrole hemail hupdates hstate =>
          exact .tried (List.mem_append_right _ hp) hid hm hrole
            (fun x hx => hemail x (hsame x hx)) (by simp [hnone, hupdates]) hstate
  | @tried r a m failed hp hid hm hrole hemail hupdates hstate =>
      cases h' with
      | untouched hnone' hsame' =>
          exact .tried (List.mem_append_left _ hp) hid hm hrole hemail (by simp [hnone', hupdates])
            (hsame' _ hstate)
      | @tried r' b m' failed' hp' hid' hm' hrole' hemail' hupdates' hstate' =>
          -- Nobody has the mailboxes of two addresses that name different ones.
          have hsame : m.email = m'.email := by
            have hcurrent := hemail' _ hstate
            cases failed <;> exact hcurrent
          rw [Email.equals_comm, hsame] at hm
          have hab := Email.equals_trans hm hm'
          rw [hne _ hp _ hp'] at hab
          contradiction

theorem onlyCall_addMember (hmode : mode.confirm = true) (role : Role) (email : String) :
    OnlyCall (.insertMember g.emailId (Member.new email role)) (addMember mode g role email) := by
  simp only [addMember, hmode, if_true]
  refine .log _ (.call fun r => ?_)
  cases r <;> trivial

theorem onlyCall_changeRole (hmode : mode.confirm = true) (role : Role) (email : String)
    (m : Member) :
    OnlyCall (.updateMember g.emailId m.id { m with role }) (changeRole mode g role email m) := by
  simp only [changeRole, hmode, if_true]
  refine .log _ (.call fun r => ?_)
  cases r <;> trivial

theorem outcome_placeMember (hmode : mode.confirm = true) (hs : M.valid s) {a : String}
    (hcurrent : ∀ m, mailbox? ms a = some m → M.member? s m.id = some m) (id : String) :
    Outcome M [(role, a)] id s ((placeMember mode g role ms a).attempts client s)
      ((placeMember mode g role ms a).run client s).state := by
  rw [mailbox?] at hcurrent
  rw [placeMember]
  cases hfirst : ms.find? (Email.equals ·.email a) with
  | none =>
      have honly : OnlyCall _ (addMember mode g role a) := onlyCall_addMember hmode role a
      simp only [honly.attempts, honly.state]
      exact .untouched rfl fun x hx => M.member?_insert hs _ hx
  | some m =>
      have hm := hcurrent m hfirst
      by_cases hrole : m.role = role
      · simp only [hrole, if_true]
        exact .untouched rfl fun x hx => hx
      · have honly : OnlyCall _ (changeRole mode g role a m) := onlyCall_changeRole hmode role a m
        simp only [hrole, if_false, honly.attempts, honly.state]
        by_cases hid : m.id = id
        · subst hid
          have hupdates : ∀ failed : Bool, updatesOf g.emailId m.id
              [⟨.updateMember g.emailId m.id { m with role }, failed⟩] =
              [⟨.updateMember g.emailId m.id { m with role }, failed⟩] := by
            simp [updatesOf, Call.updates]
          refine .tried (List.mem_singleton_self _) rfl (equals_of_mailbox? hfirst) hrole
            (fun x hx => ?_) (hupdates _) ?_
          · rw [hm] at hx
            exact congrArg Member.email (Option.some.inj hx).symm
          · rw [M.member?_update hs _ hm]
            cases (client _ s).1.isOk <;> rfl
        · refine .untouched (by simp [updatesOf, Call.updates, hid]) fun x hx => ?_
          rw [M.member?_update_of_ne hs _ (Ne.symm hid), hx]

theorem outcome_gather (hmode : mode.confirm = true) (hs : M.valid s) {emails : List String}
    (hdistinct : emails.Pairwise fun a b => Email.equals a b = false)
    (hcurrent : ∀ a ∈ emails, ∀ m, mailbox? ms a = some m → M.member? s m.id = some m)
    (id : String) :
    Outcome M (emails.map (role, ·)) id s
      ((gather (placeMember mode g role ms) emails).attempts client s)
      ((gather (placeMember mode g role ms) emails).run client s).state := by
  induction emails generalizing s with
  | nil => exact .untouched rfl fun _ hx => hx
  | cons a emails ih =>
      obtain ⟨hne, hdistinct⟩ := List.pairwise_cons.mp hdistinct
      obtain ⟨hhead, htail⟩ := List.forall_mem_cons.mp hcurrent
      have hfirst : ∀ id, Outcome M [(role, a)] id s _ _ := outcome_placeMember hmode hs hhead
      -- The list is still up to date for the other addresses, as they name other mailboxes.
      have hleft : ∀ b ∈ emails, ∀ m, mailbox? ms b = some m →
          M.member? ((placeMember mode g role ms a).run client s).state m.id = some m := by
        intro b hb m hm
        cases hfirst m.id with
        | untouched _ hsame => exact hsame m (htail b hb m hm)
        | tried hp _ hmail _ hemail =>
            obtain ⟨rfl, rfl⟩ := Prod.mk.inj (List.mem_singleton.mp hp)
            rw [← hemail m (htail b hb m hm), Email.equals_comm] at hmail
            have hab := Email.equals_trans hmail (equals_of_mailbox? hm)
            rw [hne b hb] at hab
            contradiction
      have hrest := ih (M.valid_run _ hs) hdistinct hleft
      rw [gather, attempts_bind, attempts_bind, run_bind, run_bind, attempts_pure, List.append_nil]
      exact (hfirst id).append hrest (by simpa using hne)

theorem outcome_addOrUpdateMembers (hmode : mode.confirm = true) (hs : M.valid s)
    (hdistinct : (g.emails role).Pairwise fun a b => Email.equals a b = false) (id : String) :
    Outcome M ((g.emails role).map (role, ·)) id s
      ((addOrUpdateMembers mode g role (g.emails role)).attempts client s)
      ((addOrUpdateMembers mode g role (g.emails role)).run client s).state := by
  have hsame : ∀ x, M.member? s id = some x →
      M.member? (client (.listMembers g.emailId) s).2 id = some x := by
    intro x hx
    rw [M.member?_list hs, hx]
  rw [addOrUpdateMembers, emit_bind, attempts_log, run_log, listMembers, ask_bind, call_bind,
    attempts_call, run_call]
  cases hreply : (client (.listMembers g.emailId) s).1 with
  | error f =>
      dsimp only
      split <;> exact .untouched rfl hsame
  | ok ms =>
      have hlist : Outcome M [] id s [⟨.listMembers g.emailId, false⟩]
          (client (.listMembers g.emailId) s).2 := .untouched rfl hsame
      have hcurrent : ∀ a ∈ g.emails role, ∀ m, mailbox? ms a = some m →
          M.member? (client (.listMembers g.emailId) s).2 m.id = some m := by
        intro a _ m hm
        rw [M.member?_list hs]
        exact (M.listed hs hreply m).mp (mem_of_mailbox? hm)
      exact hlist.append (outcome_gather hmode (M.valid_client _ hs) hdistinct hcurrent id)
        (by simp)

end Placing

end Reconcile

end GroupKeeper
