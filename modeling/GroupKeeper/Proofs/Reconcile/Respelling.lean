import GroupKeeper.Proofs.Lists
import GroupKeeper.Proofs.Reconcile.Forecast

/-! How addresses are spelled and in which order they are listed does not matter. Two groups that
list the same mailboxes under the same roles are reconciled by the same changes of roles, the same
removals, and additions of the same mailboxes under the same roles, each on its own and in whole
runs. -/

namespace GroupKeeper

/-! ## Calls that change members -/

namespace Call

/-- Whether a call changes a membership. -/
def isMembership : Call → Bool
  | .insertMember .. | .updateMember .. | .deleteMember .. => true
  | _ => false

/-- The member whose role a call changes, with the new role. -/
def roleChange? : Call → Option (String × Role)
  | .updateMember _ id m => some (id, m.role)
  | _ => none

/-- The member that a call removes. -/
def removed? : Call → Option String
  | .deleteMember _ id => some id
  | _ => none

/-- The member that a call adds. -/
def added? : Call → Option Member
  | .insertMember _ m => some m
  | _ => none

section IsMembership

variable {c : Call}

theorem isMutating_of_isMembership (h : c.isMembership = true) : c.isMutating = true := by
  cases c <;> first | rfl | simp [isMembership] at h

theorem roleChange?_of_others (h : c.isMembership = false) : c.roleChange? = none := by
  cases c <;> first | rfl | simp [isMembership] at h

theorem removed?_of_others (h : c.isMembership = false) : c.removed? = none := by
  cases c <;> first | rfl | simp [isMembership] at h

theorem added?_of_others (h : c.isMembership = false) : c.added? = none := by
  cases c <;> first | rfl | simp [isMembership] at h

end IsMembership

end Call

namespace Reconcile

open Directory Program

/-! ## Groups that list the same mailboxes -/

/-- A group that differs from another one in the order of the listed addresses and in their
spelling. -/
structure Respelled (g g' : GroupSpec) : Prop where
  emailId : g'.emailId = g.emailId
  name : g'.name = g.name
  description : g'.description = g.description
  settings : g'.settings = g.settings
  emails : ∀ r, Multiset.Rel (fun a b => Email.equals a b = true) (g.emails r) (g'.emails r)

/-- Addresses of one mailbox under one role. -/
def SamePlace (p q : Role × String) : Prop :=
  q.1 = p.1 ∧ Email.equals p.2 q.2 = true

/-- Members with one mailbox and one role. -/
def Alike (m m' : Member) : Prop :=
  m'.role = m.role ∧ Email.equals m.email m'.email = true

/-- Calls that give the same members the same new roles, remove the same members, and add members
that have the same mailboxes and roles, one for one. -/
structure CallsAlike (calls calls' : List Call) : Prop where
  roleChanges : (calls.filterMap Call.roleChange?).Perm (calls'.filterMap Call.roleChange?)
  removed : calls'.filterMap Call.removed? = calls.filterMap Call.removed?
  added : Multiset.Rel Alike (calls.filterMap Call.added?) (calls'.filterMap Call.added?)

/-- What is read off the calls that change members is all that is read off calls. -/
theorem filterMap_isMembership {α : Type} {f : Call → Option α}
    (hf : ∀ c, c.isMembership = false → f c = none) (calls : List Call) :
    (calls.filter Call.isMembership).filterMap f = calls.filterMap f := by
  rw [List.filterMap_filter]
  refine List.filterMap_congr fun c _ => ?_
  cases hc : c.isMembership with
  | true => rfl
  | false => exact (hf c hc).symm

theorem callsAlike_filter_iff {calls calls' : List Call} :
    CallsAlike (calls.filter Call.isMembership) (calls'.filter Call.isMembership) ↔
      CallsAlike calls calls' := by
  have hroles := filterMap_isMembership fun _ => Call.roleChange?_of_others
  have hremoved := filterMap_isMembership fun _ => Call.removed?_of_others
  have hadded := filterMap_isMembership fun _ => Call.added?_of_others
  constructor
  · rintro ⟨hr, hd, ha⟩
    rw [hroles, hroles] at hr
    rw [hremoved, hremoved] at hd
    rw [hadded, hadded] at ha
    exact ⟨hr, hd, ha⟩
  · rintro ⟨hr, hd, ha⟩
    refine ⟨?_, ?_, ?_⟩
    · rwa [hroles, hroles]
    · rwa [hremoved, hremoved]
    · rwa [hadded, hadded]

section Respelled

variable {g g' : GroupSpec} {ms : List Member} {m : Member} {p : Role × String}

theorem Respelled.symm (h : Respelled g g') : Respelled g' g := by
  refine ⟨h.emailId.symm, h.name.symm, h.description.symm, h.settings.symm, fun r => ?_⟩
  exact (Multiset.rel_flip.mpr (h.emails r)).mono fun _ _ _ _ => Email.equals_symm

theorem Respelled.listed (h : Respelled g g') :
    Multiset.Rel SamePlace (Validation.listed g) (Validation.listed g') := by
  have hrole : ∀ r, Multiset.Rel SamePlace ((g.emails r).map (r, ·) : List (Role × String))
      ((g'.emails r).map (r, ·) : List (Role × String)) := by
    intro r
    rw [← Multiset.map_coe, ← Multiset.map_coe, Multiset.rel_map]
    exact (h.emails r).mono fun _ _ _ _ heq => ⟨rfl, heq⟩
  rw [listed_eq, listed_eq]
  simp only [← Multiset.coe_add]
  exact (hrole .owner).add ((hrole .manager).add (hrole .member))

theorem Respelled.exists_listed (h : Respelled g g') (hp : p ∈ Validation.listed g) :
    ∃ q ∈ Validation.listed g', SamePlace p q :=
  Multiset.exists_mem_of_rel_of_mem h.listed hp

/-- Whoever is the first to have a listed mailbox is so under every spelling. -/
theorem Respelled.givenRole?_eq (h : Respelled g g') (hg : g.Distinct) (hg' : g'.Distinct) :
    givenRole? (Validation.listed g') ms m = givenRole? (Validation.listed g) ms m := by
  have hone : ∀ {g g' : GroupSpec}, Respelled g g' → g'.Distinct → ∀ r,
      givenRole? (Validation.listed g) ms m = some r →
        givenRole? (Validation.listed g') ms m = some r := by
    intro g g' h hg' r hgiven
    obtain ⟨a, ha, hfirst⟩ := givenRole?_eq_some hgiven
    obtain ⟨q, hq, hrole, hmail⟩ := h.exists_listed ha
    obtain rfl : q.1 = r := hrole
    rw [mailbox?_congr hmail] at hfirst
    exact givenRole?_of_mailbox (apart_listed hg') hq hfirst
  apply Option.ext
  intro r
  exact ⟨hone h.symm hg r, hone h hg' r⟩

/-- Under some of the roles the same mailboxes are listed. -/
theorem Respelled.exists_listed_iff (h : Respelled g g') (counts : Role → Prop) (email : String) :
    (∃ p ∈ Validation.listed g, counts p.1 ∧ Email.equals email p.2 = true) ↔
      ∃ p ∈ Validation.listed g', counts p.1 ∧ Email.equals email p.2 = true := by
  have hone : ∀ {g g' : GroupSpec}, Respelled g g' →
      (∃ p ∈ Validation.listed g, counts p.1 ∧ Email.equals email p.2 = true) →
        ∃ p ∈ Validation.listed g', counts p.1 ∧ Email.equals email p.2 = true := by
    rintro g g' h ⟨p, hp, hcounts, hmail⟩
    obtain ⟨q, hq, hrole, hsame⟩ := h.exists_listed hp
    exact ⟨q, hq, by rw [hrole]; exact hcounts, Email.equals_trans hmail hsame⟩
  exact ⟨hone h, hone h.symm⟩

theorem Respelled.goes_eq (h : Respelled g g') (m : Member) : goes g' m = goes g m := by
  have hmode : g'.reconcilesMembers = g.reconcilesMembers := by
    rw [GroupSpec.reconcilesMembers, GroupSpec.reconcilesMembers, h.settings]
  have hall : Email.contains g'.allMembers m.email = Email.contains g.allMembers m.email := by
    rw [Bool.eq_iff_iff, contains_allMembers_iff, contains_allMembers_iff]
    simpa using (h.exists_listed_iff (fun _ => True) m.email).symm
  have hprivileged : Email.contains g'.ownersAndManagers m.email =
      Email.contains g.ownersAndManagers m.email := by
    rw [Bool.eq_iff_iff, contains_ownersAndManagers_iff, contains_ownersAndManagers_iff]
    exact (h.exists_listed_iff (· ≠ .member) m.email).symm
  rw [goes, goes, hmode, hall, hprivileged]

/-- The same members go, in the same order. -/
theorem Respelled.leavers_eq (h : Respelled g g') (hg : g.Distinct) (hg' : g'.Distinct) :
    leavers g' ms = leavers g ms := by
  refine List.filter_congr fun m _ => ?_
  rw [h.goes_eq, withGivenRole, withGivenRole, h.givenRole?_eq hg hg']

end Respelled

/-! ## Plans for members -/

/-- The calls that are made for a listed address. -/
def placements (g : GroupSpec) (ms : List Member) (p : Role × String) : List Call :=
  (placementPlan g p.1 ms p.2).map (·.call)

section Plans

variable {g g' : GroupSpec} {ms : List Member} {p q : Role × String}

theorem roleChanges_placements (h : SamePlace p q) :
    (placements g ms p).filterMap Call.roleChange? =
      (placements g' ms q).filterMap Call.roleChange? := by
  obtain ⟨hrole, hmail⟩ := h
  rw [placements, placements, placementPlan, placementPlan, hrole, mailbox?_congr hmail]
  cases mailbox? ms q.2 with
  | none => rfl
  | some m => by_cases hsame : m.role = p.1 <;> simp [hsame, Call.roleChange?]

theorem added_placements (h : SamePlace p q) :
    Multiset.Rel Alike ((placements g ms p).filterMap Call.added?)
      ((placements g' ms q).filterMap Call.added?) := by
  obtain ⟨hrole, hmail⟩ := h
  rw [placements, placements, placementPlan, placementPlan, hrole, mailbox?_congr hmail]
  cases mailbox? ms q.2 with
  | none => exact Multiset.Rel.cons ⟨rfl, hmail⟩ .zero
  | some m =>
      by_cases hsame : m.role = p.1
      · simp only [hsame, if_true]
        exact .zero
      · simp only [hsame, if_false]
        exact .zero

theorem removed_placements (g : GroupSpec) (ms : List Member) (p : Role × String) :
    (placements g ms p).filterMap Call.removed? = [] := by
  rw [placements, placementPlan]
  cases mailbox? ms p.2 with
  | none => rfl
  | some m => by_cases hsame : m.role = p.1 <;> simp [hsame, Call.removed?]

/-- The calls that a confirmed run makes for the members of a group. -/
def memberCalls (g : GroupSpec) (ms : List Member) : List Call :=
  (Validation.listed g).flatMap (placements g ms) ++
    (leavers g ms).map fun m => .deleteMember g.emailId m.id

theorem flatMap_membersPlan (g : GroupSpec) (ms : List Member) :
    (Role.all.flatMap fun role => membersPlan g role ms).map (·.call) =
      (Validation.listed g).flatMap (placements g ms) := by
  simp [Role.all, membersPlan, Validation.listed, placements, List.map_flatMap,
    List.flatMap_map]

theorem isMembership_of_mem_memberCalls {c : Call} (hc : c ∈ memberCalls g ms) :
    c.isMembership = true := by
  rcases List.mem_append.mp hc with hc | hc
  · obtain ⟨p, -, hc⟩ := List.mem_flatMap.mp hc
    obtain ⟨planned, hplanned, rfl⟩ := List.mem_map.mp hc
    obtain rfl | ⟨m, -, rfl⟩ := eq_of_mem_placementPlan hplanned
    · rfl
    · rfl
  · obtain ⟨m, -, rfl⟩ := List.mem_map.mp hc
    rfl

theorem filter_isMembership_headPlan (g : GroupSpec) (before : Option DirectoryEntry) :
    ((headPlan g before).map (·.call)).filter Call.isMembership = [] := by
  cases before with
  | none => rfl
  | some e =>
      rw [headPlan, groupPlan]
      split <;> rfl

theorem filter_isMembership_settingsPlan (g : GroupSpec) (current : Settings) :
    ((settingsPlan g current).map (·.call)).filter Call.isMembership = [] := by
  rw [settingsPlan]
  split <;> rfl

theorem filter_calls_reconcileGroup {d : Directory} (hg : g.Distinct) (hd : Healthy d) :
    ((reconcileGroup (mode true) g).calls client d).filter Call.isMembership =
      memberCalls g ((d.find? g.emailId).getD .blank).members := by
  generalize hms : ((d.find? g.emailId).getD .blank).members = ms
  have hchanging : ((reconcileGroup (mode true) g).calls client d).filter (·.isMutating) = _ :=
    changing_calls (reconcileGroup (mode true) g)
  rw [effects_reconcileGroup hg hd, changing_effects rfl, allDeeds, hms] at hchanging
  have hfilter : ∀ calls : List Call, (calls.filter (·.isMutating)).filter Call.isMembership =
      calls.filter Call.isMembership := by
    intro calls
    rw [List.filter_filter]
    refine List.filter_congr fun c _ => ?_
    cases hc : c.isMembership with
    | false => rfl
    | true => rw [Call.isMutating_of_isMembership hc]; rfl
  have hmembers : (memberCalls g ms).filter Call.isMembership = memberCalls g ms :=
    List.filter_eq_self.mpr fun c hc => isMembership_of_mem_memberCalls hc
  rw [← hfilter, hchanging, ← hmembers, memberCalls, ← flatMap_membersPlan]
  simp only [List.map_append, List.filter_append, filter_isMembership_headPlan,
    filter_isMembership_settingsPlan, List.nil_append, List.map_map]
  rfl

theorem filterMap_memberCalls {α : Type} (g : GroupSpec) (ms : List Member) (f : Call → Option α) :
    (memberCalls g ms).filterMap f =
      ((Validation.listed g).flatMap fun p => (placements g ms p).filterMap f) ++
        (leavers g ms).filterMap fun m => f (.deleteMember g.emailId m.id) := by
  rw [memberCalls, List.filterMap_append, List.filterMap_flatMap, List.filterMap_map,
    Function.comp_def]

/-- What is done for the members of a group comes to the same for every spelling. -/
theorem Respelled.memberCalls (h : Respelled g g') (hg : g.Distinct) (hg' : g'.Distinct)
    (ms : List Member) : CallsAlike (memberCalls g ms) (memberCalls g' ms) := by
  refine ⟨?_, ?_, ?_⟩
  · have hremovals : ∀ g, ((leavers g ms).filterMap fun m =>
        Call.roleChange? (.deleteMember g.emailId m.id)) = [] := fun g => by simp [Call.roleChange?]
    rw [filterMap_memberCalls, filterMap_memberCalls, hremovals, hremovals, List.append_nil,
      List.append_nil]
    exact perm_flatMap h.listed fun p q hpq => roleChanges_placements hpq
  · have hplacements : ∀ g, ((Validation.listed g).flatMap fun p =>
        (placements g ms p).filterMap Call.removed?) = [] := fun g => by simp [removed_placements]
    rw [filterMap_memberCalls, filterMap_memberCalls, hplacements, hplacements,
      h.leavers_eq hg hg']
    rfl
  · have hremovals : ∀ g, ((leavers g ms).filterMap fun m =>
        Call.added? (.deleteMember g.emailId m.id)) = [] := fun g => by simp [Call.added?]
    rw [filterMap_memberCalls, filterMap_memberCalls, hremovals, hremovals, List.append_nil,
      List.append_nil]
    exact rel_flatMap h.listed fun p q hpq => added_placements hpq

end Plans

/-! ## Runs -/

section Runs

variable {d : Directory} {g g' : GroupSpec}

/-- Removing orphans makes no call for members. -/
theorem filter_calls_deleteOrphans (gs : List GroupSpec) (d : Directory) :
    ((deleteOrphans (mode true) gs).calls client d).filter Call.isMembership = [] := by
  rw [calls_deleteOrphans]
  refine List.filter_eq_nil_iff.mpr fun c hc => ?_
  rcases List.mem_cons.mp hc with rfl | hc
  · simp [Call.isMembership]
  · split at hc
    · simp at hc
    · obtain ⟨x, -, rfl⟩ := List.mem_map.mp hc
      simp [Call.isMembership]

theorem filter_calls_reconcileGroups (hg : Distinct [g]) (workers : Nat) (d : Directory) :
    ((reconcileGroups (mode true) workers [g]).calls client d).filter Call.isMembership =
      ((reconcileGroup (mode true) g).calls client d).filter Call.isMembership := by
  have hjobs : (Program.sequence [reconcileGroup (mode true) g]).calls client d =
      (reconcileGroup (mode true) g).calls client d := by
    rw [Program.sequence, calls_bind]
    exact List.append_nil _
  rw [calls_run_reconcileGroups, jobs_of_distinct _ hg, List.map_singleton, hjobs,
    List.filter_append, filter_calls_deleteOrphans, List.append_nil]

theorem value_reconcileGroup (hg : g.Distinct) (hd : Healthy d) :
    ((reconcileGroup (mode true) g).run client d).value = .none :=
  (leaves_reconcileGroup hg _ d hd.wellFormed (.refl d) rfl).1 hd.faultless

theorem Respelled.callsAlike (h : Respelled g g') (hg : g.Distinct) (hg' : g'.Distinct)
    (hd : Healthy d) :
    CallsAlike ((reconcileGroup (mode true) g).calls client d)
      ((reconcileGroup (mode true) g').calls client d) := by
  rw [← callsAlike_filter_iff, filter_calls_reconcileGroup hg hd,
    filter_calls_reconcileGroup hg' hd, h.emailId]
  exact h.memberCalls hg hg' _

/-- A run that ends has succeeded, and its calls for members are those of reconciling the group. -/
theorem reconcileTimed_singleton (hg : Distinct [g]) (hd : Healthy d) {workers delay : Nat}
    {deadline : Option Nat} {fs : Failures}
    (h : (reconcileTimed client.recorded delay deadline (mode true) workers [g] (d, [])).value =
      some fs) :
    fs.result = .ok () ∧
      (reconcileTimed client.recorded delay deadline (mode true) workers [g]
        (d, [])).state.2.filter Call.isMembership =
          ((reconcileGroup (mode true) g).calls client d).filter Call.isMembership := by
  have hvalue := (run_reconcileGroups hg hd workers).1
  refine ⟨result_reconcileTimed h ?_, ?_⟩
  · rw [run_recorded, hvalue]
  · rw [reconcileTimed_recorded h, filter_calls_reconcileGroups hg]

end Runs

/-- Two spellings of one group are reconciled alike, from a directory that can be built without
injected failures: (1) on its own each group is reconciled with success and by calls that are alike
for members; and (2) so are whole runs that end, however many workers there are and however long a
lookup takes. Without a deadline a run ends. -/
theorem reconcileTimed_respelled {d : Directory} (hd : Reachable d) (hfaultless : Faultless d)
    {g g' : GroupSpec} (hg : Validation.validate ⟨[g]⟩ = .ok ())
    (hg' : Validation.validate ⟨[g']⟩ = .ok ()) (h : Respelled g g') :
    (((reconcileGroup (mode true) g).run client d).value = .none ∧
      ((reconcileGroup (mode true) g').run client d).value = .none ∧
      CallsAlike ((reconcileGroup (mode true) g).calls client d)
        ((reconcileGroup (mode true) g').calls client d)) ∧
    ∀ (workers delay : Nat) (deadline : Option Nat) (workers' delay' : Nat)
      (deadline' : Option Nat),
      let out := reconcileTimed client.recorded delay deadline (mode true) workers [g] (d, [])
      let out' := reconcileTimed client.recorded delay' deadline' (mode true) workers' [g'] (d, [])
      (deadline = none → out.value.isSome) ∧ (deadline' = none → out'.value.isSome) ∧
        ∀ fs fs', out.value = some fs → out'.value = some fs' →
          fs.result = .ok () ∧ fs'.result = .ok () ∧ CallsAlike out.state.2 out'.state.2 := by
  have hgs := Validation.distinct_of_validate hg
  have hgs' := Validation.distinct_of_validate hg'
  have hdistinct := hgs.members g (List.mem_singleton_self g)
  have hdistinct' := hgs'.members g' (List.mem_singleton_self g')
  have hhealthy := hd.healthy hfaultless
  have halike := h.callsAlike hdistinct hdistinct' hhealthy
  refine ⟨⟨value_reconcileGroup hdistinct hhealthy, value_reconcileGroup hdistinct' hhealthy,
    halike⟩, ?_⟩
  intro workers delay deadline workers' delay' deadline' out out'
  refine ⟨fun hnone => ?_, fun hnone => ?_, fun fs fs' hfs hfs' => ?_⟩
  · subst hnone
    exact isSome_reconcileTimed
  · subst hnone
    exact isSome_reconcileTimed
  · obtain ⟨hresult, hcalls⟩ := reconcileTimed_singleton hgs hhealthy hfs
    obtain ⟨hresult', hcalls'⟩ := reconcileTimed_singleton hgs' hhealthy hfs'
    refine ⟨hresult, hresult', callsAlike_filter_iff.mp ?_⟩
    rw [hcalls, hcalls', callsAlike_filter_iff]
    exact halike

/-- A group with one owner and two members. -/
def plainSpelling : GroupSpec :=
  { GroupSpec.blank with
    emailId := "team@x.io", owners := ["Ann.Lee@x.io"], members := ["bob@x.io", "cid@x.io"] }

/-- The same group, with its members the other way round and everybody spelled differently. -/
def otherSpelling : GroupSpec :=
  { GroupSpec.blank with
    emailId := "team@x.io", owners := ["annlee@X.io"], members := ["Cid@x.io", "b.ob@x.io"] }

theorem respelled_otherSpelling : Respelled plainSpelling otherSpelling := by
  refine ⟨rfl, rfl, rfl, rfl, fun r => ?_⟩
  cases r with
  | owner => exact .cons (by decide +kernel) .zero
  | manager => exact .zero
  | member =>
      have hturned : (otherSpelling.emails .member : Multiset String) =
          (["b.ob@x.io", "Cid@x.io"] : List String) :=
        Multiset.coe_eq_coe.mpr (.swap _ _ _)
      rw [hturned]
      exact .cons (by decide +kernel) (.cons (by decide +kernel) .zero)

/-- Either way one owner is promoted, one is removed and two members are added. -/
theorem otherSpelling_alike :
    CallsAlike ((reconcileGroup (mode true) plainSpelling).calls client sampleDirectory)
      ((reconcileGroup (mode true) otherSpelling).calls client sampleDirectory) ∧
    CallsAlike
      (reconcileTimed client.recorded 3 none (mode true) 1 [plainSpelling]
        (sampleDirectory, [])).state.2
      (reconcileTimed client.recorded 3 none (mode true) 2 [otherSpelling]
        (sampleDirectory, [])).state.2 := by
  obtain ⟨⟨-, -, halike⟩, hruns⟩ := reconcileTimed_respelled reachable_sampleDirectory
    faultless_sampleDirectory rfl rfl respelled_otherSpelling
  obtain ⟨hends, hends', hall⟩ := hruns 1 3 none 2 3 none
  obtain ⟨fs, hfs⟩ := Option.isSome_iff_exists.mp (hends rfl)
  obtain ⟨fs', hfs'⟩ := Option.isSome_iff_exists.mp (hends' rfl)
  exact ⟨halike, (hall fs fs' hfs hfs').2.2⟩

end Reconcile

end GroupKeeper
