import GroupKeeper.Proofs.Reconcile.Announcements
import GroupKeeper.Proofs.Reconcile.Cancellation

/-! One directory, once as it is and once told to fail at more. Runs of a checked roster over the
two differ only where the added failures are: in the members that were made to fail, and in the
names, descriptions and settings of the groups that were made to fail. -/

namespace GroupKeeper

open Directory Program

/-! ## Added failures -/

namespace Directory

/-- A directory that was told to fail at memberships and groups in addition. -/
def withFailures (d : Directory) (emails groups : List String) : Directory :=
  groups.foldl withFailingGroup (emails.foldl withFailingMember d)

theorem foldl_withFailingMember (emails : List String) (d : Directory) :
    emails.foldl withFailingMember d =
      { d with failingMembers := d.failingMembers ++ emails.map Text.lower } := by
  induction emails generalizing d with
  | nil => simp
  | cons email emails ih => simp [ih, withFailingMember]

theorem foldl_withFailingGroup (groups : List String) (d : Directory) :
    groups.foldl withFailingGroup d =
      { d with failingGroups := d.failingGroups ++ groups.map key } := by
  induction groups generalizing d with
  | nil => simp
  | cons a groups ih => simp [ih, withFailingGroup]

theorem withFailures_eq (d : Directory) (emails groups : List String) :
    d.withFailures emails groups = { d with
      failingMembers := d.failingMembers ++ emails.map Text.lower
      failingGroups := d.failingGroups ++ groups.map key } := by
  rw [withFailures, foldl_withFailingMember, foldl_withFailingGroup]

section WithFailures

variable {d : Directory} {emails groups : List String} {a : String}

theorem groups_withFailures : (d.withFailures emails groups).groups = d.groups := by
  rw [withFailures_eq]

theorem failingList_withFailures :
    (d.withFailures emails groups).failingList = d.failingList := by
  rw [withFailures_eq]

theorem failsMember_withFailures (h : Text.lower a ∉ emails.map Text.lower) :
    (d.withFailures emails groups).failsMember a = d.failsMember a := by
  rw [withFailures_eq, failsMember, failsMember, Bool.eq_iff_iff]
  simp only [List.contains_eq_mem, decide_eq_true_eq, List.mem_append, h, or_false]

theorem failsGroup_withFailures (h : key a ∉ groups.map key) :
    (d.withFailures emails groups).failsGroup a = d.failsGroup a := by
  rw [withFailures_eq, failsGroup, failsGroup, Bool.eq_iff_iff]
  simp only [List.contains_eq_mem, decide_eq_true_eq, List.mem_append, h, or_false]

theorem failsGroup_withFailures_of_mem (h : key a ∈ groups.map key) :
    (d.withFailures emails groups).failsGroup a = true := by
  rw [withFailures_eq, failsGroup]
  simp only [List.contains_eq_mem, decide_eq_true_eq, List.mem_append, h, or_true]

theorem WellFormed.withFailures (hd : WellFormed d) :
    WellFormed (d.withFailures emails groups) := by
  rw [withFailures_eq]
  exact hd.of_groups_eq rfl (Nat.le_refl _)

end WithFailures

end Directory

/-- The address of the group that a call deletes. -/
def Call.deleted? : Call → Option String
  | .deleteGroup a => some a
  | _ => none

/-! ## Members who are left out -/

/-- Roles and addresses of the members, those left out that were made to fail. -/
def outside (emails : List String) (ms : List Member) : List (Role × String) :=
  (ms.map fun m => (m.role, m.email)).filter fun p => Text.lower p.2 ∉ emails.map Text.lower

namespace Reconcile

section Members

variable {d d' : Directory} {emails : List String} {g : GroupSpec} {ps : List (Role × String)}
  {ms placed placed' : List Member}

/-- Two directories agree on the memberships of the addresses that are not left out. -/
def AgreeOutside (emails : List String) (d d' : Directory) : Prop :=
  ∀ a, Text.lower a ∉ emails.map Text.lower → d'.failsMember a = d.failsMember a

theorem reaches_outside (h : AgreeOutside emails d d') {a : String}
    (ha : Text.lower (addressee ms a) ∉ emails.map Text.lower) :
    d'.reaches ms a = d.reaches ms a := by
  rw [reaches, reaches, h _ ha]

theorem withGivenRole_outside (h : AgreeOutside emails d d') {m : Member}
    (hm : Text.lower m.email ∉ emails.map Text.lower) :
    withGivenRole (ps.filter fun p => d'.reaches ms p.2) ms m =
      withGivenRole (ps.filter fun p => d.reaches ms p.2) ms m := by
  have hsame : ∀ p : Role × String,
      (d'.reaches ms p.2 && mailbox? ms p.2 == some m) =
        (d.reaches ms p.2 && mailbox? ms p.2 == some m) := by
    intro p
    cases hfirst : mailbox? ms p.2 == some m with
    | false => rw [Bool.and_false, Bool.and_false]
    | true =>
        have haddressee : addressee ms p.2 = m.email := by simp [addressee, eq_of_beq hfirst]
        rw [reaches_outside h (haddressee ▸ hm)]
  simp only [withGivenRole, givenRole?, List.find?_filter, Bool.decide_and, Bool.decide_eq_true,
    hsame]

/-- Outside of the added failures the same addresses are placed. -/
theorem outside_placed (h : AgreeOutside emails d d')
    (hplaced : PlacedAs (ps.filter fun p => d.reaches ms p.2) ms placed)
    (hplaced' : PlacedAs (ps.filter fun p => d'.reaches ms p.2) ms placed') :
    outside emails placed' = outside emails placed := by
  obtain ⟨new, rfl, hnew⟩ := hplaced
  obtain ⟨new', rfl, hnew'⟩ := hplaced'
  simp only [outside, List.map_append, List.filter_append, hnew, hnew', List.map_map,
    List.filter_map, List.filter_filter]
  refine congrArg₂ _ (List.map_congr_left fun m hm => ?_) (List.filter_congr fun p _ => ?_)
  · have hm' : Text.lower m.email ∉ emails.map Text.lower :=
      of_decide_eq_true (List.mem_filter.mp hm).2
    simp only [Function.comp_apply, withGivenRole_outside h hm']
  · cases hnone : (mailbox? ms p.2).isNone with
    | false => simp
    | true =>
        have haddressee : addressee ms p.2 = p.2 := by
          simp [addressee, Option.isNone_iff_eq_none.mp hnone]
        by_cases hp : Text.lower p.2 ∈ emails.map Text.lower
        · simp [hp]
        · rw [reaches_outside h (haddressee.symm ▸ hp)]

/-- Outside of the added failures the same members stay. -/
theorem outside_stays (h : AgreeOutside emails d d')
    (hsame : outside emails placed' = outside emails placed) :
    outside emails (placed'.filter fun m => !(d'.releases m && goes g m)) =
      outside emails (placed.filter fun m => !(d.releases m && goes g m)) := by
  -- Whether a member stays depends on the role and the address only.
  have hfilter : ∀ (d : Directory) (ms : List Member),
      outside emails (ms.filter fun m => !(d.releases m && goes g m)) =
        (outside emails ms).filter fun p => !(!d.failsMember p.2 && goes g ⟨"", p.2, p.1⟩) := by
    intro d ms
    rw [outside, outside, List.filter_comm, List.filter_map (l := ms)]
    rfl
  rw [hfilter, hfilter, hsame]
  refine List.filter_congr fun p hp => ?_
  have hp' := (List.mem_filter.mp hp).2
  rw [h p.2 (by simpa using hp')]

end Members

/-! ## Groups -/

/-- Two groups that look the same once members are left out that were made to fail. -/
structure SameOutside (emails : List String) (e f : DirectoryEntry) : Prop where
  name : f.group.name = e.group.name
  description : f.group.description = e.group.description
  settings : f.settings = e.settings
  members : outside emails f.members = outside emails e.members

section Groups

variable {d d' : Directory} {emails : List String} {g : GroupSpec} {before e e' : DirectoryEntry}

theorem Handled.outside (h : AgreeOutside emails d d') (he : Handled d g before e)
    (he' : Handled d' g before e') : outside emails e'.members = outside emails e.members := by
  obtain ⟨placed, hplaced, hmembers⟩ := he.members
  obtain ⟨placed', hplaced', hmembers'⟩ := he'.members
  rw [hmembers, hmembers']
  exact outside_stays h (outside_placed h hplaced hplaced')

theorem Handled.sameOutside (h : AgreeOutside emails d d')
    (hlookup : d'.failsGroup g.emailId = d.failsGroup g.emailId) (he : Handled d g before e)
    (he' : Handled d' g before e') : SameOutside emails e e' := by
  refine ⟨?_, ?_, ?_, he.outside h he'⟩
  · rw [he.name, he'.name, hlookup]
  · rw [he.description, he'.description, hlookup]
  · rw [he.settings, he'.settings, settingsAfter, settingsAfter, hlookup]

theorem Found.sameOutside (h : AgreeOutside emails d d')
    (hlookup : d'.failsGroup g.emailId = d.failsGroup g.emailId)
    {before o o' : Option DirectoryEntry}
    (ho : Found d g before (Handled d g (before.getD .blank)) o)
    (ho' : Found d' g before (Handled d' g (before.getD .blank)) o') :
    Option.Rel (SameOutside emails) o o' := by
  by_cases hmissing : d.failsGroup g.emailId = true ∧ before = none
  · rw [found_of_missing hmissing] at ho
    rw [found_of_missing (hlookup ▸ hmissing)] at ho'
    rw [ho, ho']
    exact .none
  · rw [found_of_not_missing hmissing] at ho
    rw [found_of_not_missing (hlookup ▸ hmissing)] at ho'
    obtain ⟨e, rfl, he⟩ := ho
    obtain ⟨e', rfl, he'⟩ := ho'
    exact .some (he.sameOutside h hlookup he')

end Groups

/-! ## Whole runs -/

section Runs

variable {d : Directory} {gs : List GroupSpec} {k : String} {emails groups : List String}

/-- A group that is wanted is left as its job left it. -/
theorem get?_reconcileGroups_of_wanted (hgs : Distinct gs) (hd : WellFormed d) (workers : Nat)
    {g : GroupSpec} (hg : g ∈ gs) :
    ((reconcileGroups (mode true) workers gs).run client d).state.find? g.emailId =
      (endState client (gs.map (reconcileGroup (mode true))) d).find? g.emailId := by
  have hafter := wellFormed_endState hd (gs.map (reconcileGroup (mode true)))
  rw [state_run_reconcileGroups, jobs_of_distinct _ hgs, find?, get?_run_deleteOrphans hafter,
    find?]
  split
  · rfl
  · cases hget : (endState client (gs.map (reconcileGroup (mode true))) d).groups.get?
        (key g.emailId) with
    | none => rfl
    | some e =>
        have hwanted : isWanted gs e = true :=
          List.any_eq_true.mpr ⟨g, hg, Directory.equals_of_key_eq (hafter.keyed _ e hget)⟩
        rw [Option.filter, if_pos hwanted]

theorem get?_reconcileGroups_of_other (hgs : Distinct gs) (hd : WellFormed d) (workers : Nat)
    (hk : ∀ g ∈ gs, k ≠ key g.emailId) :
    ((reconcileGroups (mode true) workers gs).run client d).state.groups.get? k =
      if d.failingList then d.groups.get? k else (d.groups.get? k).filter (isWanted gs) := by
  have hafter := wellFormed_endState hd (gs.map (reconcileGroup (mode true)))
  rw [state_run_reconcileGroups, jobs_of_distinct _ hgs, get?_run_deleteOrphans hafter,
    (sameFaults_endState _ d).list, (allHandled_endState hgs hd).others k hk]

/-- The groups that a run deletes do not depend on what becomes of the wanted ones. -/
theorem deletions_reconcileGroups (hgs : Distinct gs) (hd : WellFormed d) (workers : Nat) :
    ((reconcileGroups (mode true) workers gs).calls client d).filterMap Call.deleted? =
      if d.failingList then [] else (orphans gs (listing d)).map (·.email) := by
  have hjobs :
      ((Program.sequence (jobs (mode true) gs)).calls client d).filterMap Call.deleted? = [] := by
    refine List.filterMap_eq_nil_iff.mpr fun c hc => ?_
    have hkeeps : ∀ p ∈ jobs (mode true) gs, p.AllCalls fun c => ∀ a, c ≠ .deleteGroup a := by
      intro p hp
      obtain ⟨g, -, rfl⟩ := List.mem_map.mp hp
      exact allCalls_reconcileGroup_ne_deleteGroup _ g
    have hne := (Program.AllCalls.sequence hkeeps).calls d c hc
    cases c <;> first | rfl | exact absurd rfl (hne _)
  have hafter := wellFormed_endState hd (jobs (mode true) gs)
  have hothers := (allHandled_endState hgs hd).others
  rw [← jobs_of_distinct (mode true) hgs] at hothers
  rw [calls_run_reconcileGroups, List.filterMap_append, hjobs, calls_deleteOrphans,
    (sameFaults_endState _ d).list, orphans_listing_congr hd hafter hothers]
  split
  · rfl
  · rw [List.nil_append, List.filterMap_cons_none rfl, List.filterMap_map]
    exact congrFun List.filterMap_eq_map _

/-- What added failures leave alone, in the directory and the calls after a run. -/
structure Isolated (emails groups : List String) (gs : List GroupSpec) (before : Directory)
    (plain faulty : Directory × List Call) : Prop where
  /-- A group that can be looked up is the same but for the members that were made to fail. -/
  spared : ∀ k, k ∉ groups.map key →
    Option.Rel (SameOutside emails) (plain.1.groups.get? k) (faulty.1.groups.get? k)
  /-- A wanted group that cannot be looked up is left as it was, but for its members. -/
  failed : ∀ k, k ∈ groups.map key → ∀ e, before.groups.get? k = some e → isWanted gs e = true →
    ∃ f f', plain.1.groups.get? k = some f ∧ faulty.1.groups.get? k = some f' ∧
      f'.group.name = e.group.name ∧ f'.group.description = e.group.description ∧
      f'.settings = e.settings ∧ outside emails f'.members = outside emails f.members
  /-- The same groups are deleted, in the same order. -/
  deletions : faulty.2.filterMap Call.deleted? = plain.2.filterMap Call.deleted?
  /-- Both runs do the same to a group under an address that is none of the wanted ones. -/
  others : ∀ k, (∀ g ∈ gs, k ≠ key g.emailId) →
    faulty.1.groups.get? k = plain.1.groups.get? k

theorem agreeOutside_withFailures (d : Directory) (emails groups : List String) :
    AgreeOutside emails d (d.withFailures emails groups) :=
  fun _ ha => failsMember_withFailures ha

theorem get?_reconcileGroups_withFailures (emails groups : List String) (hgs : Distinct gs)
    (hd : WellFormed d) (workers : Nat) (hk : ∀ g ∈ gs, k ≠ key g.emailId) :
    ((reconcileGroups (mode true) workers gs).run client
        (d.withFailures emails groups)).state.groups.get? k =
      ((reconcileGroups (mode true) workers gs).run client d).state.groups.get? k := by
  rw [get?_reconcileGroups_of_other hgs hd workers hk,
    get?_reconcileGroups_of_other hgs hd.withFailures workers hk, groups_withFailures,
    failingList_withFailures]

theorem found_reconcileGroups (hgs : Distinct gs) (hd : WellFormed d) (workers : Nat)
    {g : GroupSpec} (hg : g ∈ gs) :
    Found d g (d.find? g.emailId) (Handled d g ((d.find? g.emailId).getD .blank))
      (((reconcileGroups (mode true) workers gs).run client d).state.find? g.emailId) := by
  rw [get?_reconcileGroups_of_wanted hgs hd workers hg]
  exact (allHandled_endState hgs hd).handled g hg

theorem isolated_reconcileGroups (hgs : Distinct gs) (hd : WellFormed d) (workers : Nat)
    (emails groups : List String) :
    Isolated emails groups gs d
      (((reconcileGroups (mode true) workers gs).run client d).state,
        (reconcileGroups (mode true) workers gs).calls client d)
      (((reconcileGroups (mode true) workers gs).run client (d.withFailures emails groups)).state,
        (reconcileGroups (mode true) workers gs).calls client (d.withFailures emails groups)) := by
  have hd' : WellFormed (d.withFailures emails groups) := hd.withFailures
  have hagree := agreeOutside_withFailures d emails groups
  have hsame : ∀ a, (d.withFailures emails groups).find? a = d.find? a := by
    intro a
    rw [find?, find?, groups_withFailures]
  have hfound : ∀ g ∈ gs, Found (d.withFailures emails groups) g (d.find? g.emailId)
      (Handled (d.withFailures emails groups) g ((d.find? g.emailId).getD .blank))
      (((reconcileGroups (mode true) workers gs).run client
        (d.withFailures emails groups)).state.find? g.emailId) := by
    intro g hg
    have hg' := found_reconcileGroups hgs hd' workers hg
    rwa [hsame] at hg'
  refine ⟨fun k hk => ?_, fun k hk e he hwanted => ?_, ?_, fun k hk => ?_⟩
  · by_cases hother : ∀ g ∈ gs, k ≠ key g.emailId
    · rw [get?_reconcileGroups_withFailures emails groups hgs hd workers hother]
      cases ((reconcileGroups (mode true) workers gs).run client d).state.groups.get? k with
      | none => exact .none
      | some e => exact .some ⟨rfl, rfl, rfl, rfl⟩
    · obtain ⟨g, hg, rfl⟩ : ∃ g ∈ gs, k = key g.emailId := by simpa using hother
      exact (found_reconcileGroups hgs hd workers hg).sameOutside hagree
        (failsGroup_withFailures hk) (hfound g hg)
  · by_cases hother : ∀ g ∈ gs, k ≠ key g.emailId
    · have hleft : ((reconcileGroups (mode true) workers gs).run client d).state.groups.get? k =
          some e := by
        rw [get?_reconcileGroups_of_other hgs hd workers hother, he, Option.filter, if_pos hwanted]
        exact ite_self _
      have hleft' := get?_reconcileGroups_withFailures emails groups hgs hd workers hother
      exact ⟨e, e, hleft, hleft'.trans hleft, rfl, rfl, rfl, rfl⟩
    · obtain ⟨g, hg, rfl⟩ : ∃ g ∈ gs, k = key g.emailId := by simpa using hother
      have hlocked : (d.withFailures emails groups).failsGroup g.emailId = true :=
        failsGroup_withFailures_of_mem hk
      have hplain := found_reconcileGroups hgs hd workers hg
      have hfaulty := hfound g hg
      have hbefore : d.find? g.emailId = some e := he
      rw [hbefore] at hplain hfaulty
      rw [found_of_not_missing (by simp)] at hplain hfaulty
      obtain ⟨f, hf, hplain⟩ := hplain
      obtain ⟨f', hf', hfaulty⟩ := hfaulty
      refine ⟨f, f', hf, hf', ?_, ?_, ?_, hplain.outside hagree hfaulty⟩
      · simpa [hlocked] using hfaulty.name
      · simpa [hlocked] using hfaulty.description
      · simpa [settingsAfter, hlocked] using hfaulty.settings
  · rw [deletions_reconcileGroups hgs hd workers, deletions_reconcileGroups hgs hd' workers,
      failingList_withFailures, listing, listing, groups_withFailures]
  · exact get?_reconcileGroups_withFailures emails groups hgs hd workers hk

/-- A run of a checked roster over a directory that was told to fail at some memberships and some
lookups in addition leaves the same, outside of these, as the run without. Without a deadline both
runs end. -/
theorem reconcileTimed_isolates {d : Directory} (hd : Reachable d) {c : Roster}
    (hc : Validation.validate c = .ok ()) (emails groups : List String) (workers delay : Nat)
    (deadline : Option Nat) :
    let plain := reconcileTimed client.recorded delay deadline (mode true) workers c.groups (d, [])
    let faulty := reconcileTimed client.recorded delay deadline (mode true) workers c.groups
      (d.withFailures emails groups, [])
    (deadline = none → plain.value.isSome ∧ faulty.value.isSome) ∧
    (plain.value.isSome → faulty.value.isSome →
      Isolated emails groups c.groups d plain.state faulty.state) := by
  refine ⟨fun hnone => ?_, fun hplain hfaulty => ?_⟩
  · subst hnone
    exact ⟨isSome_reconcileTimed, isSome_reconcileTimed⟩
  · obtain ⟨fs, hfs⟩ := Option.isSome_iff_exists.mp hplain
    obtain ⟨fs', hfs'⟩ := Option.isSome_iff_exists.mp hfaulty
    rw [reconcileTimed_recorded hfs, reconcileTimed_recorded hfs']
    exact isolated_reconcileGroups (Validation.distinct_of_validate hc) hd.wellFormed workers emails
      groups

/-- The sample, with an owner who is known under another spelling, a member of the same group and
the lookup of that group made to fail. -/
theorem sample_isolates :
    let plain := reconcileTimed client.recorded sampleDirectory.lookupDelay none (mode true) 2
      sampleRoster.groups (sampleDirectory, [])
    let faulty := reconcileTimed client.recorded sampleDirectory.lookupDelay none (mode true) 2
      sampleRoster.groups
      (sampleDirectory.withFailures ["AnnLee@x.io", "bob@x.io"] ["team@x.io"], [])
    Isolated ["AnnLee@x.io", "bob@x.io"] ["team@x.io"] sampleRoster.groups sampleDirectory
      plain.state faulty.state := by
  obtain ⟨hends, hisolated⟩ := reconcileTimed_isolates reachable_sampleDirectory
    validate_sampleRoster ["AnnLee@x.io", "bob@x.io"] ["team@x.io"] 2 sampleDirectory.lookupDelay
    none
  obtain ⟨hplain, hfaulty⟩ := hends rfl
  exact hisolated hplain hfaulty

end Runs

end Reconcile

end GroupKeeper
