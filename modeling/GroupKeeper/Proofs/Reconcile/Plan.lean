import GroupKeeper.Proofs.Reconcile.Group

/-! What a step is going to do. Its plan follows from what it is told first, whoever answers: if
changes are not confirmed it announces the changes of the plan, and if they are it makes the calls
of the plan. -/

namespace GroupKeeper

/-- The change that an event announces. -/
def Event.announced? : Event → Option Change
  | .would c => some c
  | _ => none

variable {α β σ : Type}

namespace Program

/-- The changes that a run announces and the changing calls that it makes, in their order. -/
def effects (client : Client σ) : Program α → σ → List (Change ⊕ Call)
  | done _, _ => []
  | log e p, s => e.announced?.toList.map .inl ++ p.effects client s
  | call c k, s =>
    (if c.isMutating then [.inr c] else []) ++ (k (client c s).1).effects client (client c s).2

section Effects

variable {client : Client σ} {s : σ}

@[simp] theorem effects_pure (a : α) : (pure a : Program α).effects client s = [] :=
  rfl

theorem effects_log {e : Event} (h : e.announced? = none) (p : Program α) :
    (log e p).effects client s = p.effects client s := by
  simp [effects, h]

@[simp] theorem effects_would (c : Change) (p : Program α) :
    (log (.would c) p).effects client s = .inl c :: p.effects client s :=
  rfl

theorem effects_read {c : Call} (hc : c.isMutating = false)
    (k : Except Failure c.Reply → Program α) :
    (call c k).effects client s = (k (client c s).1).effects client (client c s).2 := by
  simp [effects, hc]

theorem effects_change {c : Call} (hc : c.isMutating = true)
    (k : Except Failure c.Reply → Program α) :
    (call c k).effects client s = .inr c :: (k (client c s).1).effects client (client c s).2 := by
  simp [effects, hc]

theorem effects_bind (p : Program α) (f : α → Program β) :
    (p >>= f).effects client s =
      p.effects client s ++ (f (p.run client s).value).effects client (p.run client s).state := by
  induction p generalizing s with
  | done a => rfl
  | log e p ih => simp [effects, ih]
  | call c k ih => simp [effects, ih]

/-- After a run that changes nothing, what comes next has the effects that it would have at once. -/
theorem Quiet.effects_bind {p : Program α} {a : α} (hp : Quiet client p s a)
    (f : α → Program β) :
    (p >>= f).effects client s = p.effects client s ++ (f a).effects client s := by
  rw [Program.effects_bind, hp.value, hp.state]

theorem effects_sequence_cons (p : Program α) (ps : List (Program α)) :
    (sequence (p :: ps)).effects client s =
      p.effects client s ++ (sequence ps).effects client (p.run client s).state := by
  rw [sequence, effects_bind, effects_bind, effects_pure, List.append_nil]

theorem Quiet.effects_sequence {ps : List (Program α)} {a : α}
    (h : ∀ p ∈ ps, Quiet client p s a) :
    (Program.sequence ps).effects client s = ps.flatMap (·.effects client s) := by
  induction ps with
  | nil => rfl
  | cons p ps ih =>
      obtain ⟨hp, hrest⟩ := List.forall_mem_cons.mp h
      rw [effects_sequence_cons, hp.state, ih hrest, List.flatMap_cons]

theorem announced_run (p : Program α) :
    (p.run client s).events.filterMap Event.announced? =
      (p.effects client s).filterMap Sum.getLeft? := by
  induction p generalizing s with
  | done a => rfl
  | log e p ih => cases he : e.announced? <;> simp [effects, he, ih]
  | call c k ih => cases hc : c.isMutating <;> simp [effects, hc, ih, List.filterMap_cons]

theorem changing_calls (p : Program α) :
    (p.calls client s).filter (·.isMutating) = (p.effects client s).filterMap Sum.getRight? := by
  induction p generalizing s with
  | done a => rfl
  | log e p ih => cases he : e.announced? <;> simp [effects, he, ih, List.filterMap_cons]
  | call c k ih => cases hc : c.isMutating <;> simp [effects, hc, ih]

end Effects

end Program

namespace Reconcile

open Program

/-! ## Plans -/

/-- A change with the call that makes it. -/
structure Planned where
  change : Change
  call : Call

/-- What becomes of a plan: calls if changes are confirmed, and announcements if not. -/
def Planned.effect (mode : Mode) (p : Planned) : Change ⊕ Call :=
  if mode.confirm then .inr p.call else .inl p.change

theorem announced_effects {mode : Mode} (hmode : mode.confirm = false) (ps : List Planned) :
    (ps.map (·.effect mode)).filterMap Sum.getLeft? = ps.map (·.change) := by
  induction ps with
  | nil => rfl
  | cons p ps ih => simp [Planned.effect, hmode, ← ih]

theorem changing_effects {mode : Mode} (hmode : mode.confirm = true) (ps : List Planned) :
    (ps.map (·.effect mode)).filterMap Sum.getRight? = ps.map (·.call) := by
  induction ps with
  | nil => rfl
  | cons p ps ih => simp [Planned.effect, hmode, ← ih]

def creation (g : GroupSpec) : Planned :=
  ⟨.createGroup g.emailId, .insertGroup (wantedGroup g)⟩

def groupPlan (g : GroupSpec) (current : Group) : List Planned :=
  if differs g current then
    [⟨.updateGroup g.emailId, .updateGroup g.emailId (wantedGroup g)⟩]
  else []

/-- The plan after looking a group up, which is created where it is missing. -/
def lookupPlan (isMissing : Failure → Bool) (g : GroupSpec) : Except Failure Group → List Planned
  | .ok current => groupPlan g current
  | .error f => if isMissing f then [creation g] else []

/-- The plan after an answer. A failure leaves nothing to do. -/
def planAfter (plan : α → List Planned) : Except Failure α → List Planned
  | .ok a => plan a
  | .error _ => []

def settingsPlan (g : GroupSpec) (current : Settings) : List Planned :=
  if (current.desired g.settings).1 = current then []
  else [⟨.updateSettings g.emailId current (current.desired g.settings).1,
    .patchSettings g.emailId (current.desired g.settings).1⟩]

/-- The plan for an address that is listed under a role. -/
def placementPlan (g : GroupSpec) (role : Role) (current : List Member) (email : String) :
    List Planned :=
  match mailbox? current email with
  | some m =>
    if m.role = role then []
    else [⟨.updateMember g.emailId email m.role role,
      .updateMember g.emailId m.id { m with role }⟩]
  | none => [⟨.addMember g.emailId email role, .insertMember g.emailId (Member.new email role)⟩]

def membersPlan (g : GroupSpec) (role : Role) (current : List Member) : List Planned :=
  (g.emails role).flatMap (placementPlan g role current)

def removal (g : GroupSpec) (m : Member) : Planned :=
  ⟨.removeMember g.emailId m.email m.role, .deleteMember g.emailId m.id⟩

def groupRemoval (x : Group) : Planned :=
  ⟨.removeGroup x.email, .deleteGroup x.email⟩

section Plans

variable {g : GroupSpec} {x : Planned}

theorem eq_of_mem_groupPlan {current : Group} (hx : x ∈ groupPlan g current) :
    x = ⟨.updateGroup g.emailId, .updateGroup g.emailId (wantedGroup g)⟩ := by
  rw [groupPlan] at hx
  split at hx
  · exact List.mem_singleton.mp hx
  · cases hx

theorem eq_of_mem_settingsPlan {current : Settings} (hx : x ∈ settingsPlan g current) :
    x = ⟨.updateSettings g.emailId current (current.desired g.settings).1,
      .patchSettings g.emailId (current.desired g.settings).1⟩ := by
  rw [settingsPlan] at hx
  split at hx
  · cases hx
  · exact List.mem_singleton.mp hx

theorem eq_of_mem_placementPlan {role : Role} {current : List Member} {email : String}
    (hx : x ∈ placementPlan g role current email) :
    x = ⟨.addMember g.emailId email role, .insertMember g.emailId (Member.new email role)⟩ ∨
      ∃ m, mailbox? current email = some m ∧
        x = ⟨.updateMember g.emailId email m.role role,
          .updateMember g.emailId m.id { m with role }⟩ := by
  rw [placementPlan] at hx
  split at hx
  · next m hfirst =>
    split at hx
    · cases hx
    · exact .inr ⟨m, hfirst, List.mem_singleton.mp hx⟩
  · exact .inl (List.mem_singleton.mp hx)

end Plans

/-! ## Steps and their plans -/

section Steps

variable {client : Client σ} {s : σ} {mode : Mode} {g : GroupSpec}

theorem effects_gather {act : α → Program Failures} {plan : α → List Planned} {xs : List α}
    (h : ∀ x ∈ xs, ∀ s, (act x).effects client s = (plan x).map (·.effect mode)) :
    (gather act xs).effects client s = (xs.flatMap plan).map (·.effect mode) := by
  induction xs generalizing s with
  | nil => rfl
  | cons x xs ih =>
      obtain ⟨hx, hrest⟩ := List.forall_mem_cons.mp h
      rw [gather, effects_bind, effects_bind, hx, ih hrest, effects_pure, List.append_nil,
        List.flatMap_cons, List.map_append]

/-- Making a change if changes are confirmed, and announcing it if not. -/
theorem effects_either {c : Call} (hc : c.isMutating = true) {e : Event} (he : e.announced? = none)
    (change : Change) {k : Except Failure c.Reply → Program α}
    (hk : ∀ r s, (k r).effects client s = []) (a : α) :
    (if mode.confirm then log e (call c k) else log (.would change) (pure a)).effects client s =
      [(⟨change, c⟩ : Planned).effect mode] := by
  rw [Planned.effect]
  split
  · rw [effects_log he, effects_change hc, hk]
  · rfl

theorem effects_createOrUpdateGroup :
    (createOrUpdateGroup mode g).effects client s =
      (lookupPlan mode.isMissing g (client (.getGroup g.emailId) s).1).map (·.effect mode) := by
  rw [createOrUpdateGroup, emit_bind, effects_log rfl, ask_bind, effects_read rfl]
  cases (client (.getGroup g.emailId) s).1 with
  | error f =>
      rw [lookupPlan]
      dsimp only
      split
      · exact effects_either rfl rfl _ (fun r s => by cases r <;> rfl) _
      · rfl
  | ok current =>
      rw [lookupPlan, groupPlan]
      dsimp only
      split
      · exact effects_either rfl rfl _ (fun r s => by cases r <;> rfl) _
      · rfl

theorem effects_warnUnknown (group : String) (keys : List String) :
    (warnUnknown group keys).effects client s = [] := by
  induction keys with
  | nil => rfl
  | cons key keys ih => exact ih

theorem effects_updateSettings :
    (updateSettings mode g).effects client s =
      (planAfter (settingsPlan g) (client (.getSettings g.emailId) s).1).map (·.effect mode) := by
  rw [updateSettings, emit_bind, effects_log rfl, ask_bind, effects_read rfl]
  cases (client (.getSettings g.emailId) s).1 with
  | error f =>
      dsimp only
      split
      · exact effects_log rfl _
      · rfl
  | ok current =>
      simp only [planAfter, settingsPlan]
      cases current.desired g.settings with
      | mk wanted unknown =>
          rw [effects_bind, effects_warnUnknown, List.nil_append]
          by_cases hwanted : wanted = current
          · simp only [hwanted, if_true, emit_bind]
            exact effects_log rfl _
          · cases hmode : mode.confirm with
            | false => simp [hwanted, Planned.effect, hmode]
            | true =>
                simp only [hwanted, Planned.effect, hmode, if_true, if_false]
                rw [ask_bind, effects_change rfl]
                cases (client (.patchSettings g.emailId wanted) _).1 <;> rfl

/-- Listing members, and doing something for some of them. -/
theorem effects_forListed (activity : Activity) {act : List Member → β → Program Failures}
    (items : List Member → List β) {plan : List Member → β → List Planned}
    (hact : ∀ ms x s, (act ms x).effects client s = (plan ms x).map (·.effect mode)) :
    Program.effects client (do
      match ← listMembers mode g activity with
      | .error f => return .of f
      | .ok none => return .none
      | .ok (some ms) => gather (act ms) (items ms)) s =
      (planAfter (fun ms => (items ms).flatMap (plan ms))
        (client (.listMembers g.emailId) s).1).map (·.effect mode) := by
  rw [listMembers, ask_bind, call_bind, effects_read rfl]
  cases (client (.listMembers g.emailId) s).1 with
  | error f =>
      dsimp only
      split
      · exact effects_log rfl _
      · rfl
  | ok ms => exact effects_gather fun x _ => hact ms x

theorem effects_placeMember (role : Role) (current : List Member) (email : String) :
    (placeMember mode g role current email).effects client s =
      (placementPlan g role current email).map (·.effect mode) := by
  rw [placeMember, placementPlan, mailbox?]
  cases current.find? (Email.equals ·.email email) with
  | none => exact effects_either rfl rfl _ (fun r s => by cases r <;> rfl) _
  | some m =>
      dsimp only
      split
      · rfl
      · exact effects_either rfl rfl _ (fun r s => by cases r <;> rfl) _

theorem effects_addOrUpdateMembers (role : Role) (emails : List String) :
    (addOrUpdateMembers mode g role emails).effects client s =
      (planAfter (fun current => emails.flatMap (placementPlan g role current))
        (client (.listMembers g.emailId) s).1).map (·.effect mode) := by
  rw [addOrUpdateMembers, emit_bind, effects_log rfl]
  exact effects_forListed _ _ fun current email s => effects_placeMember role current email

theorem effects_removeMember (m : Member) :
    (removeMember mode g m).effects client s = [(removal g m).effect mode] :=
  effects_either rfl rfl _ (fun r s => by cases r <;> rfl) _

theorem effects_removeUnlisted (keep : List String) (removable : Member → Bool) :
    (removeUnlisted mode g keep removable).effects client s =
      (planAfter (fun current =>
        (current.filter fun m => removable m && !Email.contains keep m.email).map (removal g))
        (client (.listMembers g.emailId) s).1).map (·.effect mode) := by
  simp only [← List.flatMap_pure_eq_map (f := removal g)]
  exact effects_forListed _ _ fun _ m s => effects_removeMember m

theorem effects_removeOthers :
    (removeOthers mode g).effects client s =
      (planAfter (fun ms => (ms.filter (goes g)).map (removal g))
        (client (.listMembers g.emailId) s).1).map (·.effect mode) := by
  rw [removeOthers]
  cases hmode : g.reconcilesMembers with
  | true =>
      rw [if_pos rfl, removeMembers, emit_bind, effects_log rfl, effects_removeUnlisted]
      simp only [goes_eq_of_reconciles hmode, Bool.true_and]
  | false =>
      rw [if_neg (by simp), removeOwnersOrManagers, emit_bind, effects_log rfl,
        effects_removeUnlisted, goes_eq_of_not_reconciles hmode]

theorem effects_removeOrphan (x : Group) :
    (removeOrphan mode x).effects client s = [(groupRemoval x).effect mode] :=
  effects_either rfl rfl _ (fun r s => by cases r <;> rfl) _

theorem effects_deleteOrphans (wanted : List GroupSpec) :
    (deleteOrphans mode wanted).effects client s =
      (planAfter (fun current => (orphans wanted current).map groupRemoval)
        (client .listGroups s).1).map (·.effect mode) := by
  rw [deleteOrphans, ask_bind, effects_read rfl]
  cases (client .listGroups s).1 with
  | error f => rfl
  | ok current =>
      simp only [planAfter, ← List.flatMap_pure_eq_map (f := groupRemoval)]
      exact effects_gather fun x _ s => effects_removeOrphan x

theorem effects_emitAll {events : List Event} (h : ∀ e ∈ events, e.announced? = none) :
    (emitAll events).effects client s = [] := by
  induction events with
  | nil => rfl
  | cons e events ih =>
      obtain ⟨he, hrest⟩ := List.forall_mem_cons.mp h
      rw [emitAll, emit_bind, effects_log he, ih hrest]

theorem announced?_opening (workers : Nat) (gs : List GroupSpec) :
    ∀ e ∈ opening workers gs, e.announced? = none := by
  intro e he
  rcases List.mem_append.mp he with he | he
  · obtain ⟨g, -, rfl⟩ := List.mem_map.mp he
    rfl
  · rw [List.mem_singleton.mp he]
    rfl

end Steps

end Reconcile

end GroupKeeper
