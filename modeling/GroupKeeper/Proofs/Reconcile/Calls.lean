import GroupKeeper.Reconcile.Run
import GroupKeeper.Proofs.Program

/-! The calls that each step of a reconciliation can make, whatever the answers are. A step asks
about one group and changes that group only, and it changes nothing unless changes are
confirmed. -/

namespace GroupKeeper

/-- The group that a call is about. Listing the groups is about none. -/
def Call.target? : Call → Option String
  | .getGroup key | .deleteGroup key | .listMembers key | .getSettings key => some key
  | .updateGroup key _ | .insertMember key _ | .deleteMember key _ | .patchSettings key _ =>
    some key
  | .updateMember key _ _ => some key
  | .insertGroup g => some g.email
  | .listGroups => none

namespace Reconcile

open Program

/-- A call is allowed in a mode if it changes nothing or changes are confirmed. -/
def Allowed (mode : Mode) (c : Call) : Prop :=
  mode.confirm = false → c.isMutating = false

/-- A call that is allowed in a mode and is about one group. -/
def Serves (mode : Mode) (g : GroupSpec) (c : Call) : Prop :=
  c.target? = some g.emailId ∧ Allowed mode c

theorem allowed_of_read {mode : Mode} {c : Call} (h : c.isMutating = false) : Allowed mode c :=
  fun _ => h

theorem allowed_of_confirm {mode : Mode} {c : Call} (h : mode.confirm = true) : Allowed mode c :=
  fun hdry => absurd (h.symm.trans hdry) (by decide)

theorem allCalls_gather {α : Type} {P : Call → Prop} {act : α → Program Failures} {xs : List α}
    (h : ∀ x ∈ xs, (act x).AllCalls P) : (gather act xs).AllCalls P := by
  induction xs with
  | nil => trivial
  | cons x xs ih =>
      refine (h x (by simp)).bind fun first => ?_
      exact (ih fun y hy => h y (by simp [hy])).bind fun rest => trivial

theorem quiet_gather {α σ : Type} {client : Client σ} {s : σ} {act : α → Program Failures}
    {xs : List α} (h : ∀ x ∈ xs, Quiet client (act x) s .none) :
    Quiet client (gather act xs) s .none := by
  induction xs with
  | nil => exact .pure _
  | cons x xs ih =>
      exact (h x (by simp)).bind ((ih fun y hy => h y (by simp [hy])).bind (.pure _))

theorem quiet_warnUnknown {σ : Type} {client : Client σ} {s : σ} (group : String)
    (keys : List String) : Quiet client (warnUnknown group keys) s () := by
  induction keys with
  | nil => exact .pure _
  | cons key keys ih => exact .log _ ih

theorem allCalls_warnUnknown {P : Call → Prop} (group : String) (keys : List String) :
    (warnUnknown group keys).AllCalls P := by
  induction keys with
  | nil => trivial
  | cons key keys ih => exact ih

/-! ## The calls of each step -/

section Steps

variable {mode : Mode} {g : GroupSpec} {P : Call → Prop}

/-- Making a change only if changes are confirmed. -/
theorem allCalls_either {α : Type} {c : Call} {e e' : Event}
    {k : Except Failure c.Reply → Program α} {a : α} (hc : mode.confirm = true → P c)
    (hk : ∀ r, (k r).AllCalls P) :
    (if mode.confirm then log e (call c k) else log e' (pure a)).AllCalls P := by
  split
  · next hconfirm => exact ⟨hc hconfirm, hk⟩
  · trivial

theorem asksFirst_createOrUpdateGroup
    (hinsert : mode.confirm = true → P (.insertGroup (wantedGroup g)))
    (hupdate : mode.confirm = true → P (.updateGroup g.emailId (wantedGroup g))) :
    AsksFirst (.getGroup g.emailId) P (createOrUpdateGroup mode g) := by
  rw [createOrUpdateGroup, emit_bind, ask_bind]
  refine .log _ (.call fun reply => ?_)
  cases reply with
  | error f =>
      simp only
      split
      · exact allCalls_either hinsert fun created => by cases created <;> trivial
      · trivial
  | ok current =>
      simp only
      split
      · exact allCalls_either hupdate fun updated => by cases updated <;> trivial
      · trivial

theorem AllCalls.createOrUpdateGroup (hget : P (.getGroup g.emailId))
    (hinsert : mode.confirm = true → P (.insertGroup (wantedGroup g)))
    (hupdate : mode.confirm = true → P (.updateGroup g.emailId (wantedGroup g))) :
    (createOrUpdateGroup mode g).AllCalls P :=
  (asksFirst_createOrUpdateGroup hinsert hupdate).allCalls hget

theorem asksFirst_updateSettings
    (hpatch : mode.confirm = true → ∀ wanted, P (.patchSettings g.emailId wanted)) :
    AsksFirst (.getSettings g.emailId) P (updateSettings mode g) := by
  rw [updateSettings, emit_bind, ask_bind]
  refine .log _ (.call fun reply => ?_)
  cases reply with
  | error f =>
      simp only
      split <;> trivial
  | ok current =>
      refine (allCalls_warnUnknown _ _).bind fun _ => ?_
      split
      · trivial
      · split
        · next hconfirm =>
          refine ⟨hpatch hconfirm _, fun patched => ?_⟩
          cases patched <;> trivial
        · trivial

theorem AllCalls.updateSettings (hget : P (.getSettings g.emailId))
    (hpatch : mode.confirm = true → ∀ wanted, P (.patchSettings g.emailId wanted)) :
    (updateSettings mode g).AllCalls P :=
  (asksFirst_updateSettings hpatch).allCalls hget

theorem asksFirst_listMembers (activity : Activity) :
    AsksFirst (.listMembers g.emailId) P (listMembers mode g activity) := by
  rw [listMembers, ask_bind]
  refine .call fun reply => ?_
  cases reply with
  | error f =>
      simp only
      split <;> trivial
  | ok current => trivial

theorem AllCalls.changeRole {m : Member}
    (hupdate : mode.confirm = true → ∀ x, P (.updateMember g.emailId m.id x)) (role : Role)
    (email : String) : (changeRole mode g role email m).AllCalls P :=
  allCalls_either (fun h => hupdate h _) fun reply => by cases reply <;> trivial

theorem AllCalls.addMember (hinsert : mode.confirm = true → ∀ m, P (.insertMember g.emailId m))
    (role : Role) (email : String) : (addMember mode g role email).AllCalls P :=
  allCalls_either (fun h => hinsert h _) fun reply => by cases reply <;> trivial

theorem asksFirst_addOrUpdateMembers
    (hinsert : mode.confirm = true → ∀ m, P (.insertMember g.emailId m))
    (hupdate : mode.confirm = true → ∀ id m, P (.updateMember g.emailId id m)) (role : Role)
    (emails : List String) :
    AsksFirst (.listMembers g.emailId) P (addOrUpdateMembers mode g role emails) := by
  refine .log _ ((asksFirst_listMembers .addingMembers).bind fun listed => ?_)
  split
  · trivial
  · trivial
  · refine allCalls_gather fun email _ => ?_
    rw [placeMember]
    split
    · split
      · trivial
      · exact AllCalls.changeRole (fun h => hupdate h _) role email
    · exact AllCalls.addMember hinsert role email

theorem AllCalls.addOrUpdateMembers (hlist : P (.listMembers g.emailId))
    (hinsert : mode.confirm = true → ∀ m, P (.insertMember g.emailId m))
    (hupdate : mode.confirm = true → ∀ id m, P (.updateMember g.emailId id m)) (role : Role)
    (emails : List String) : (addOrUpdateMembers mode g role emails).AllCalls P :=
  (asksFirst_addOrUpdateMembers hinsert hupdate role emails).allCalls hlist

theorem AllCalls.removeMember {m : Member}
    (hdelete : mode.confirm = true → P (.deleteMember g.emailId m.id)) :
    (removeMember mode g m).AllCalls P :=
  allCalls_either hdelete fun reply => by cases reply <;> trivial

theorem asksFirst_removeUnlisted
    (hdelete : mode.confirm = true → ∀ id, P (.deleteMember g.emailId id)) (keep : List String)
    (removable : Member → Bool) :
    AsksFirst (.listMembers g.emailId) P (removeUnlisted mode g keep removable) := by
  refine (asksFirst_listMembers .removingMembers).bind fun listed => ?_
  split
  · trivial
  · trivial
  · exact allCalls_gather fun m _ => AllCalls.removeMember fun h => hdelete h m.id

theorem AllCalls.removeUnlisted (hlist : P (.listMembers g.emailId))
    (hdelete : mode.confirm = true → ∀ id, P (.deleteMember g.emailId id)) (keep : List String)
    (removable : Member → Bool) : (removeUnlisted mode g keep removable).AllCalls P :=
  (asksFirst_removeUnlisted hdelete keep removable).allCalls hlist

theorem asksFirst_removeOthers
    (hdelete : mode.confirm = true → ∀ id, P (.deleteMember g.emailId id)) :
    AsksFirst (.listMembers g.emailId) P (removeOthers mode g) := by
  rw [removeOthers]
  split
  · exact .log _ (asksFirst_removeUnlisted hdelete _ _)
  · exact .log _ (asksFirst_removeUnlisted hdelete _ _)

theorem AllCalls.removeOrphan {x : Group}
    (hdelete : mode.confirm = true → P (.deleteGroup x.email)) :
    (removeOrphan mode x).AllCalls P :=
  allCalls_either hdelete fun reply => by cases reply <;> trivial

theorem asksFirst_deleteOrphans (hdelete : mode.confirm = true → ∀ a, P (.deleteGroup a))
    (wanted : List GroupSpec) : AsksFirst .listGroups P (deleteOrphans mode wanted) := by
  rw [deleteOrphans, ask_bind]
  refine .call fun reply => ?_
  cases reply with
  | error f => trivial
  | ok current => exact allCalls_gather fun x _ => AllCalls.removeOrphan fun h => hdelete h x.email

end Steps

/-! ## One group -/

section Serves

variable (mode : Mode) (g : GroupSpec)

theorem serves_of_confirm {c : Call} (htarget : c.target? = some g.emailId)
    (hconfirm : mode.confirm = true) : Serves mode g c :=
  ⟨htarget, allowed_of_confirm hconfirm⟩

theorem allCalls_createOrUpdateGroup :
    (createOrUpdateGroup mode g).AllCalls (Serves mode g) :=
  AllCalls.createOrUpdateGroup ⟨rfl, allowed_of_read rfl⟩ (serves_of_confirm mode g rfl)
    (serves_of_confirm mode g rfl)

theorem allCalls_updateSettings : (updateSettings mode g).AllCalls (Serves mode g) :=
  AllCalls.updateSettings ⟨rfl, allowed_of_read rfl⟩ fun h _ => serves_of_confirm mode g rfl h

theorem allCalls_addOrUpdateMembers (role : Role) (emails : List String) :
    (addOrUpdateMembers mode g role emails).AllCalls (Serves mode g) :=
  AllCalls.addOrUpdateMembers ⟨rfl, allowed_of_read rfl⟩
    (fun h _ => serves_of_confirm mode g rfl h) (fun h _ _ => serves_of_confirm mode g rfl h) role
    emails

theorem allCalls_removeUnlisted (keep : List String) (removable : Member → Bool) :
    (removeUnlisted mode g keep removable).AllCalls (Serves mode g) :=
  AllCalls.removeUnlisted ⟨rfl, allowed_of_read rfl⟩ (fun h _ => serves_of_confirm mode g rfl h)
    keep removable

theorem allCalls_removeOwnersOrManagers (keep : List String) :
    (removeOwnersOrManagers mode g keep).AllCalls (Serves mode g) :=
  allCalls_removeUnlisted mode g keep _

theorem allCalls_removeMembers (keep : List String) :
    (removeMembers mode g keep).AllCalls (Serves mode g) :=
  allCalls_removeUnlisted mode g keep _

theorem allCalls_removeOthers : (removeOthers mode g).AllCalls (Serves mode g) := by
  simp only [removeOthers]
  split
  · exact allCalls_removeMembers mode g _
  · exact allCalls_removeOwnersOrManagers mode g _

/-- Reconciling a group asks about that group and changes that group only. -/
theorem allCalls_reconcileGroup : (reconcileGroup mode g).AllCalls (Serves mode g) := by
  simp only [reconcileGroup]
  split
  · trivial
  · refine (allCalls_createOrUpdateGroup mode g).bind fun _ => ?_
    refine (allCalls_updateSettings mode g).bind fun _ => ?_
    refine (allCalls_addOrUpdateMembers mode g .owner _).bind fun _ => ?_
    refine (allCalls_addOrUpdateMembers mode g .manager _).bind fun _ => ?_
    refine (allCalls_addOrUpdateMembers mode g .member _).bind fun _ => ?_
    exact (allCalls_removeOthers mode g).bind fun _ => trivial

end Serves

/-! ## All groups -/

section Allowed

variable (mode : Mode)

theorem allCalls_deleteOrphans (wanted : List GroupSpec) :
    (deleteOrphans mode wanted).AllCalls (Allowed mode) :=
  (asksFirst_deleteOrphans (fun h _ => allowed_of_confirm h) wanted).allCalls (allowed_of_read rfl)

theorem AllCalls.allowed {α : Type} {p : Program α} {mode : Mode} {g : GroupSpec}
    (h : p.AllCalls (Serves mode g)) : p.AllCalls (Allowed mode) :=
  h.mono fun _ hc => hc.2

theorem allCalls_emitAll {P : Call → Prop} (events : List Event) : (emitAll events).AllCalls P := by
  induction events with
  | nil => trivial
  | cons e events ih => exact ih

theorem allCalls_jobs (gs : List GroupSpec) : ∀ p ∈ jobs mode gs, p.AllCalls (Allowed mode) := by
  intro p hp
  obtain ⟨g, -, rfl⟩ := List.mem_map.mp hp
  exact AllCalls.allowed (allCalls_reconcileGroup mode g)

theorem allCalls_reconcileGroups (workers : Nat) (gs : List GroupSpec) :
    (reconcileGroups mode workers gs).AllCalls (Allowed mode) := by
  refine (allCalls_emitAll _).bind fun _ => ?_
  refine (Program.AllCalls.sequence (allCalls_jobs mode gs)).bind fun _ => ?_
  exact (allCalls_deleteOrphans mode gs).bind fun _ => trivial

end Allowed

end Reconcile

end GroupKeeper
