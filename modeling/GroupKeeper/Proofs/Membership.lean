import GroupKeeper.Proofs.Program

/-! Clients as far as the members of one group are concerned. Any call may fail at any time, but a
call that fails changes no membership, and one that succeeds does what it says and no more. -/

namespace GroupKeeper

open Program

variable {α σ : Type}

/-- What can be relied on of the members of the group under an address, in states that are valid. -/
structure Membership (client : Client σ) (key : String) where
  valid : σ → Prop
  /-- The member under an id. -/
  member? : σ → String → Option Member
  valid_client : ∀ c {s}, valid s → valid (client c s).2
  /-- Members are listed under their own ids. -/
  listed : ∀ {s ms}, valid s → (client (.listMembers key) s).1 = .ok ms →
    ∀ m, m ∈ ms ↔ member? s m.id = some m
  member?_list : ∀ {s}, valid s → member? (client (.listMembers key) s).2 = member? s
  /-- A failure changes nothing. -/
  member?_failed : ∀ {c s f}, valid s → (client c s).1 = .error f →
    member? (client c s).2 = member? s
  /-- An update gives the role to the member under the id. -/
  member?_updated : ∀ {id m u s}, valid s → (client (.updateMember key id m) s).1 = .ok u →
    ∀ i, member? (client (.updateMember key id m) s).2 i =
      if i = id then (member? s i).map fun x => { x with role := m.role } else member? s i
  /-- An insertion uses an id that nobody has. -/
  member?_inserted : ∀ {m u s}, valid s → (client (.insertMember key m) s).1 = .ok u →
    ∃ id, member? s id = none ∧
      ∀ i, i ≠ id → member? (client (.insertMember key m) s).2 i = member? s i

namespace Membership

variable {client : Client σ} {key : String} (M : Membership client key) {s : σ}

theorem valid_run (p : Program α) (hs : M.valid s) : M.valid (p.run client s).state :=
  run_invariant (fun c _ => M.valid_client c) p hs

/-- Whoever is a member stays one while members are inserted, whether that succeeds or not. -/
theorem member?_insert {id : String} {x : Member} (hs : M.valid s) (m : Member)
    (hx : M.member? s id = some x) :
    M.member? (client (.insertMember key m) s).2 id = some x := by
  cases hreply : (client (.insertMember key m) s).1 with
  | error f => rw [M.member?_failed hs hreply, hx]
  | ok u =>
      obtain ⟨i, hnone, hothers⟩ := M.member?_inserted hs hreply
      rw [hothers id, hx]
      rintro rfl
      simp [hx] at hnone

theorem member?_update_of_ne {id i : String} (hs : M.valid s) (m : Member) (hne : i ≠ id) :
    M.member? (client (.updateMember key id m) s).2 i = M.member? s i := by
  cases hreply : (client (.updateMember key id m) s).1 with
  | error f => rw [M.member?_failed hs hreply]
  | ok u => rw [M.member?_updated hs hreply, if_neg hne]

theorem member?_update {id : String} {x : Member} (hs : M.valid s) (m : Member)
    (hx : M.member? s id = some x) :
    M.member? (client (.updateMember key id m) s).2 id =
      some (if (client (.updateMember key id m) s).1.isOk then { x with role := m.role }
        else x) := by
  cases hreply : (client (.updateMember key id m) s).1 with
  | error f => simp [M.member?_failed hs hreply, hx, Except.isOk, Except.toBool]
  | ok u => simp [M.member?_updated hs hreply, hx, Except.isOk, Except.toBool]

end Membership

end GroupKeeper
