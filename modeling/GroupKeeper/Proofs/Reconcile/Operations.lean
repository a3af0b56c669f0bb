import GroupKeeper.Proofs.Reconcile.Plan

/-! Single operations. Each of them reads once and then changes what its plan says, if changes are
confirmed. The plan depends on the answer to that one call alone. A dry run therefore announces just
what a confirmed run attempts after the same answer, whatever becomes of the attempts. -/

namespace GroupKeeper

/-- The members that an answer lists. Only a list of members lists any. -/
def Call.listed : (c : Call) → Except Failure c.Reply → List Member
  | .listMembers _, .ok ms => ms
  | _, _ => []

/-- Whether an event says what would be done. -/
def Event.saysWould (e : Event) : Bool :=
  "dry-run: would ".toList.isPrefixOf e.message.toList

theorem isPrefixOf_ofList (xs ys : List Char) :
    (String.ofList xs).toList.isPrefixOf (String.ofList ys).toList = xs.isPrefixOf ys := by
  rw [String.toList_ofList, String.toList_ofList]

/-- Just the announcements say so. -/
theorem Event.saysWould_eq (e : Event) : e.saysWould = e.announced?.isSome := by
  cases e with
  | would c | begun c | finished c => cases c <;> exact isPrefixOf_ofList _ _
  | entered group step => cases step <;> exact isPrefixOf_ofList _ _
  | groupMissing group activity => simp [saysWould, announced?, message, List.isPrefixOf]
  | _ => exact isPrefixOf_ofList _ _

theorem filter_saysWould (events : List Event) :
    events.filter Event.saysWould = (events.filterMap Event.announced?).map .would := by
  induction events with
  | nil => rfl
  | cons e events ih =>
      rw [List.filter_cons, Event.saysWould_eq, ih]
      cases e <;> rfl

namespace Reconcile

open Directory Program

variable {α σ : Type}

/-! ## Following a plan -/

/-- A program reads by one call and then follows a plan for the answer to it: if changes are
confirmed it makes the calls of the plan, and if not it announces the changes of the plan. -/
structure Follows (mode : Mode) (read : Call) (p : Program α)
    (plan : Except Failure read.Reply → List Planned) : Prop where
  reads : read.isMutating = false
  asks : AsksFirst read (fun c => mode.confirm = true ∧ c.isMutating = true) p
  effects : ∀ {σ : Type} (client : Client σ) (s : σ),
    p.effects client s = (plan (client read s).1).map (·.effect mode)

section Follows

variable {mode : Mode} {read : Call} {p : Program α}
  {plan : Except Failure read.Reply → List Planned}

theorem Follows.log {e : Event} (he : e.announced? = none) (h : Follows mode read p plan) :
    Follows mode read (log e p) plan where
  reads := h.reads
  asks := .log e h.asks
  effects client s := (effects_log he p).trans (h.effects client s)

theorem Follows.calls_of_confirmed (h : Follows mode read p plan) (hmode : mode.confirm = true)
    (client : Client σ) (s : σ) :
    p.calls client s = read :: (plan (client read s).1).map (·.call) := by
  obtain ⟨attempts, hcalls, hattempts⟩ := h.asks.calls client s
  have hchanging : (p.calls client s).filter (·.isMutating) = _ := changing_calls p
  rw [hcalls, List.filter_cons_of_neg (by simp [h.reads]),
    List.filter_eq_self.mpr fun c hc => (hattempts c hc).2, h.effects,
    changing_effects hmode] at hchanging
  rw [hcalls, hchanging]

theorem Follows.calls_of_dry (h : Follows mode read p plan) (hmode : mode.confirm = false)
    (client : Client σ) (s : σ) : p.calls client s = [read] := by
  obtain ⟨attempts, hcalls, hattempts⟩ := h.asks.calls client s
  have hnone : attempts = [] := by
    refine List.eq_nil_iff_forall_not_mem.mpr fun c hc => ?_
    exact Bool.false_ne_true (hmode.symm.trans (hattempts c hc).1)
  rw [hcalls, hnone]

theorem Follows.announced_of_dry (h : Follows mode read p plan) (hmode : mode.confirm = false)
    (client : Client σ) (s : σ) :
    (p.run client s).events.filterMap Event.announced? =
      (plan (client read s).1).map (·.change) := by
  rw [announced_run, h.effects, announced_effects hmode]

end Follows

/-! ## Operations and their plans -/

section Operations

variable (mode : Mode) (g : GroupSpec)

theorem follows_createOrUpdateGroup :
    Follows mode (.getGroup g.emailId) (createOrUpdateGroup mode g)
      (lookupPlan mode.isMissing g) where
  reads := rfl
  asks := asksFirst_createOrUpdateGroup (fun h => ⟨h, rfl⟩) fun h => ⟨h, rfl⟩
  effects _ _ := effects_createOrUpdateGroup

theorem follows_updateSettings :
    Follows mode (.getSettings g.emailId) (updateSettings mode g) (planAfter (settingsPlan g)) where
  reads := rfl
  asks := asksFirst_updateSettings fun h _ => ⟨h, rfl⟩
  effects _ _ := effects_updateSettings

/-- The plan for placing addresses under a role, unless the members cannot be listed. -/
def additionPlan (role : Role) (emails : List String) :
    Except Failure (List Member) → List Planned :=
  planAfter fun current => emails.flatMap (placementPlan g role current)

theorem follows_addOrUpdateMembers (role : Role) (emails : List String) :
    Follows mode (.listMembers g.emailId) (addOrUpdateMembers mode g role emails)
      (additionPlan g role emails) where
  reads := rfl
  asks := asksFirst_addOrUpdateMembers (fun h _ => ⟨h, rfl⟩) (fun h _ _ => ⟨h, rfl⟩) role emails
  effects _ _ := effects_addOrUpdateMembers role emails

/-- The plan for removing members, unless they cannot be listed. -/
def removalPlan (keep : List String) (removable : Member → Bool) :
    Except Failure (List Member) → List Planned :=
  planAfter fun current =>
    (current.filter fun m => removable m && !Email.contains keep m.email).map (removal g)

theorem follows_removeUnlisted (keep : List String) (removable : Member → Bool) :
    Follows mode (.listMembers g.emailId) (removeUnlisted mode g keep removable)
      (removalPlan g keep removable) where
  reads := rfl
  asks := asksFirst_removeUnlisted (fun h _ => ⟨h, rfl⟩) keep removable
  effects _ _ := effects_removeUnlisted keep removable

/-- The plan for removing groups, unless they cannot be listed. -/
def orphanPlan (wanted : List GroupSpec) : Except Failure (List Group) → List Planned :=
  planAfter fun current => (orphans wanted current).map groupRemoval

theorem follows_deleteOrphans (wanted : List GroupSpec) :
    Follows mode .listGroups (deleteOrphans mode wanted) (orphanPlan wanted) where
  reads := rfl
  asks := asksFirst_deleteOrphans (fun h _ => ⟨h, rfl⟩) wanted
  effects _ _ := effects_deleteOrphans wanted

/-- The single operations, each with the call by which it reads and its plan for the answer, given
which failures say that something is missing. -/
inductive SingleOperation : (read : Call) → (α : Type) → (Mode → Program α) →
    ((Failure → Bool) → Except Failure read.Reply → List Planned) → Prop where
  | createOrUpdateGroup (g : GroupSpec) :
      SingleOperation (.getGroup g.emailId) _ (createOrUpdateGroup · g) (lookupPlan · g)
  | updateSettings (g : GroupSpec) :
      SingleOperation (.getSettings g.emailId) _ (updateSettings · g)
        fun _ => planAfter (settingsPlan g)
  | addOrUpdateMembers (g : GroupSpec) (role : Role) (emails : List String) :
      SingleOperation (.listMembers g.emailId) _ (addOrUpdateMembers · g role emails)
        fun _ => additionPlan g role emails
  | removeMembers (g : GroupSpec) (keep : List String) :
      SingleOperation (.listMembers g.emailId) _ (removeMembers · g keep)
        fun _ => removalPlan g keep fun _ => true
  | removeOwnersOrManagers (g : GroupSpec) (keep : List String) :
      SingleOperation (.listMembers g.emailId) _ (removeOwnersOrManagers · g keep)
        fun _ => removalPlan g keep fun m => m.role != .member
  | deleteOrphans (wanted : List GroupSpec) :
      SingleOperation .listGroups _ (deleteOrphans · wanted) fun _ => orphanPlan wanted

theorem SingleOperation.follows {read : Call} {p : Mode → Program α}
    {plan : (Failure → Bool) → Except Failure read.Reply → List Planned}
    (h : SingleOperation read α p plan) (mode : Mode) :
    Follows mode read (p mode) (plan mode.isMissing) := by
  cases h with
  | createOrUpdateGroup g => exact follows_createOrUpdateGroup mode g
  | updateSettings g => exact follows_updateSettings mode g
  | addOrUpdateMembers g role emails => exact follows_addOrUpdateMembers mode g role emails
  | removeMembers g keep => exact .log rfl (follows_removeUnlisted mode g keep _)
  | removeOwnersOrManagers g keep => exact .log rfl (follows_removeUnlisted mode g keep _)
  | deleteOrphans wanted => exact follows_deleteOrphans mode wanted

end Operations

/-! ## One for one -/

/-- An announced change and a call that makes it, where members are known from a list: the same kind
of change to the same group, with the same member and the same role where it is about a member. The
list also tells under which id a member is known. -/
inductive Names (listed : List Member) : Change → Call → Prop where
  | createGroup (x : Group) : Names listed (.createGroup x.email) (.insertGroup x)
  | updateGroup (key : String) (x : Group) : Names listed (.updateGroup key) (.updateGroup key x)
  | updateSettings (key : String) (current wanted : Settings) :
      Names listed (.updateSettings key current wanted) (.patchSettings key wanted)
  | addMember (key : String) (m : Member) :
      Names listed (.addMember key m.email m.role) (.insertMember key m)
  | updateMember (key : String) {email : String} {m : Member} (role : Role) :
      m ∈ listed → Email.equals m.email email = true →
        Names listed (.updateMember key email m.role role) (.updateMember key m.id { m with role })
  | removeMember (key : String) {m : Member} :
      m ∈ listed → Names listed (.removeMember key m.email m.role) (.deleteMember key m.id)
  | removeGroup (key : String) : Names listed (.removeGroup key) (.deleteGroup key)

section Names

variable {g : GroupSpec} {listed : List Member} {x : Planned}

theorem Names.isMutating {change : Change} {c : Call} (h : Names listed change c) :
    c.isMutating = true := by
  cases h <;> rfl

theorem names_lookupPlan {isMissing : Failure → Bool} {reply : Except Failure Group}
    (hx : x ∈ lookupPlan isMissing g reply) : Names listed x.change x.call := by
  cases reply with
  | error f =>
      rw [lookupPlan] at hx
      split at hx
      · obtain rfl := List.mem_singleton.mp hx
        exact .createGroup (wantedGroup g)
      · cases hx
  | ok current =>
      obtain rfl := eq_of_mem_groupPlan hx
      exact .updateGroup _ _

theorem names_settingsPlan {current : Settings} (hx : x ∈ settingsPlan g current) :
    Names listed x.change x.call := by
  obtain rfl := eq_of_mem_settingsPlan hx
  exact .updateSettings _ _ _

theorem names_placementPlan {role : Role} {email : String}
    (hx : x ∈ placementPlan g role listed email) : Names listed x.change x.call := by
  obtain rfl | ⟨m, hfirst, rfl⟩ := eq_of_mem_placementPlan hx
  · exact .addMember _ (Member.new email role)
  · exact .updateMember _ _ (mem_of_mailbox? hfirst) (equals_of_mailbox? hfirst)

theorem names_removalPlan {keep : List String} {removable : Member → Bool} {key : String}
    {reply : Except Failure (List Member)} (hx : x ∈ removalPlan g keep removable reply) :
    Names ((Call.listMembers key).listed reply) x.change x.call := by
  cases reply with
  | error f => cases hx
  | ok current =>
      obtain ⟨m, hm, rfl⟩ := List.mem_map.mp hx
      exact .removeMember _ (List.mem_filter.mp hm).1

/-- Every plan pairs changes with calls that make them. -/
theorem SingleOperation.names {read : Call} {p : Mode → Program α}
    {plan : (Failure → Bool) → Except Failure read.Reply → List Planned}
    (h : SingleOperation read α p plan) {isMissing : Failure → Bool}
    {reply : Except Failure read.Reply} (hx : x ∈ plan isMissing reply) :
    Names (read.listed reply) x.change x.call := by
  cases h with
  | createOrUpdateGroup g => exact names_lookupPlan hx
  | updateSettings g =>
      cases reply with
      | error f => cases hx
      | ok current => exact names_settingsPlan hx
  | addOrUpdateMembers g role emails =>
      cases reply with
      | error f => cases hx
      | ok current =>
          obtain ⟨email, -, hx⟩ := List.mem_flatMap.mp hx
          exact names_placementPlan hx
  | removeMembers g keep => exact names_removalPlan hx
  | removeOwnersOrManagers g keep => exact names_removalPlan hx
  | deleteOrphans wanted =>
      cases reply with
      | error f => cases hx
      | ok current =>
          obtain ⟨y, -, rfl⟩ := List.mem_map.mp hx
          exact .removeGroup _

end Names

/-- Whatever counts as missing, and whoever answers in each mode: if the one call by which an
operation reads is answered alike, a dry run of it makes no other call, and says what changes are
planned after that answer, while a confirmed run attempts just the calls of the plan, with or
without success. One for one and in order, what is said is the change that the call makes. -/
theorem dryRun_names_attempts (isMissing : Failure → Bool) {read : Call} {p : Mode → Program α}
    {plan : (Failure → Bool) → Except Failure read.Reply → List Planned}
    (h : SingleOperation read α p plan) {τ : Type} (client : Client σ) (client' : Client τ) (s : σ)
    (t : τ) (hreply : (client read s).1 = (client' read t).1) :
    let planned := plan isMissing (client read s).1
    (p ⟨false, isMissing⟩).calls client s = [read] ∧
    ((p ⟨false, isMissing⟩).run client s).events.filter Event.saysWould =
      planned.map (.would ·.change) ∧
    (p ⟨true, isMissing⟩).calls client' t = read :: planned.map (·.call) ∧
    ∀ x ∈ planned, x.call.isMutating = true ∧
      Names (read.listed (client read s).1) x.change x.call := by
  intro planned
  have hdry := h.follows ⟨false, isMissing⟩
  have hconfirmed := h.follows ⟨true, isMissing⟩
  refine ⟨hdry.calls_of_dry rfl client s, ?_, ?_, fun x hx => ?_⟩
  · rw [filter_saysWould, hdry.announced_of_dry rfl, List.map_map]
    rfl
  · rw [hconfirmed.calls_of_confirmed rfl, ← hreply]
  · exact ⟨(h.names hx).isMutating, h.names hx⟩

/-- A group with two spellings of one mailbox, the first of them as a mere member, and an owner. -/
def aliasedDirectory : Directory :=
  [("annlee@x.io", Role.member), ("ann.lee@x.io", .owner), ("dan@x.io", .owner)].foldl
    (fun d m => (d.withMember "team@x.io" m.1 m.2).2) (empty.withGroup "team@x.io" "" "")

/-- The same group under other capitals. -/
def aliasedSpec : GroupSpec :=
  { GroupSpec.blank with emailId := "Team@x.io" }

/-- What a dry run says of the mailbox and of a new address that comes twice is what a confirmed run
attempts, although that fails at the new address both times. -/
theorem aliased_names_attempts :
    let addresses := ["eve@x.io", "Ann.Lee@x.io", "eve@x.io"]
    let listed : List Member := [⟨"2", "annlee@x.io", .member⟩, ⟨"3", "ann.lee@x.io", .owner⟩,
      ⟨"4", "dan@x.io", .owner⟩]
    let planned := additionPlan aliasedSpec .owner addresses (.ok listed)
    planned.map (·.call) = [
      .insertMember "Team@x.io" ⟨"", "eve@x.io", .owner⟩,
      .updateMember "Team@x.io" "2" ⟨"2", "annlee@x.io", .owner⟩,
      .insertMember "Team@x.io" ⟨"", "eve@x.io", .owner⟩] ∧
    ((addOrUpdateMembers ⟨false, Directory.isMissing⟩ aliasedSpec .owner addresses).run client
      aliasedDirectory).events.filter Event.saysWould = planned.map (.would ·.change) ∧
    (addOrUpdateMembers ⟨true, Directory.isMissing⟩ aliasedSpec .owner addresses).calls client
      (aliasedDirectory.withFailingMember "eve@x.io") =
        .listMembers aliasedSpec.emailId :: planned.map (·.call) ∧
    ∀ x ∈ planned, Names listed x.change x.call := by
  intro addresses listed planned
  have hlisted : (client (.listMembers aliasedSpec.emailId) aliasedDirectory).1 = .ok listed := rfl
  obtain ⟨-, hsaid, hattempted, hnames⟩ := dryRun_names_attempts Directory.isMissing
    (.addOrUpdateMembers aliasedSpec .owner addresses) client client aliasedDirectory
    (aliasedDirectory.withFailingMember "eve@x.io") rfl
  rw [hlisted] at hsaid hattempted hnames
  exact ⟨by decide +kernel, hsaid, hattempted, fun x hx => (hnames x hx).2⟩

end Reconcile

end GroupKeeper
