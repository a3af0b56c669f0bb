import GroupKeeper.Snapshot
import GroupKeeper.Proofs.Lists
import GroupKeeper.Proofs.Reconcile.Concurrency
import GroupKeeper.Proofs.Reconcile.Idempotence

/-! A snapshot asks for what there is. Reconciling the groups that were written down finds nothing
to do, also where the members of some of them are to be reconciled, as every member was written down
under its role. -/

namespace GroupKeeper.Snapshot

open Directory Program Reconcile

variable {d : Directory} {g : GroupSpec} {e : DirectoryEntry}

/-! ## What is written down -/

/-- A group whose members have different mailboxes, and whose settings with a default are all
set. -/
structure Tidy (e : DirectoryEntry) : Prop where
  members : e.members.Pairwise fun m n => Email.equals m.email n.email = false
  settings : ∀ q ∈ Policy.defaults, (e.settings.managed q.1).isSome

/-- A listed group as it is written down. -/
def written (d : Directory) (x : Group) : GroupSpec :=
  let e := (d.find? x.email).getD .blank
  describe x e.settings e.members

theorem written_of_find {x : Group} (hfind : d.find? x.email = some e) :
    written d x = describe x e.settings e.members := by
  rw [written, hfind, Option.getD_some]

theorem quiet_describeAll (hd : Faultless d) {xs : List Group}
    (hxs : ∀ x ∈ xs, ∃ e, d.find? x.email = some e) :
    Quiet client (describeAll xs) d (.ok (xs.map (written d))) := by
  induction xs with
  | nil => exact .pure _
  | cons x xs ih =>
      obtain ⟨⟨e, hfind⟩, hxs⟩ := List.forall_mem_cons.mp hxs
      have hmembers : (client (.listMembers x.email) d).1 = .ok e.members := by
        simp only [client, Directory.listMembers, hfind]
      rw [describeAll, ask_bind, List.map_cons, written_of_find hfind]
      refine quiet_read rfl (getSettings_of_find (hd.failsGroup _) hfind) ?_
      exact quiet_read rfl hmembers ((ih hxs).bind (.pure _))

/-- Taking a snapshot writes down every group of the listing. -/
theorem quiet_take (hd : Healthy d) :
    Quiet client take d (.ok ⟨(listing d).map (written d)⟩) := by
  have hreply : (client .listGroups d).1 = .ok (listing d) := by
    rw [client_listGroups hd.faultless.list]
  have hfound : ∀ x ∈ listing d, ∃ e, d.find? x.email = some e := by
    intro x hx
    obtain ⟨e, hget, -⟩ := (mem_listing_iff hd.wellFormed).mp hx
    exact ⟨e, hget⟩
  have hquiet := quiet_describeAll hd.faultless hfound
  rw [take, ask_bind]
  refine quiet_read rfl hreply ?_
  dsimp only
  by_cases hempty : (listing d).isEmpty = true
  · rw [if_pos hempty]
    exact .log _ (hquiet.bind (.pure _))
  · rw [if_neg hempty]
    exact hquiet.bind (.pure _)

/-! ## What it asks for -/

/-- A group as it was written down, or with its members to be reconciled besides. -/
def AlsoReconciled (g g' : GroupSpec) : Prop :=
  g' = g ∨ g' = { g with settings := g.settings.insert reconcileMembersKey "true" }

theorem AlsoReconciled.emailId {g' : GroupSpec} (h : AlsoReconciled g g') :
    g'.emailId = g.emailId := by
  rcases h with rfl | rfl <;> rfl

theorem AlsoReconciled.emails {g' : GroupSpec} (h : AlsoReconciled g g') (r : Role) :
    g'.emails r = g.emails r := by
  rcases h with rfl | rfl
  · rfl
  · cases r <;> rfl

theorem AlsoReconciled.get?_name {g' : GroupSpec} (h : AlsoReconciled g g') (p : Policy) :
    g'.settings.get? p.name = g.settings.get? p.name := by
  rcases h with rfl | rfl
  · rfl
  · have hne : p.name ≠ reconcileMembersKey := by
      cases p <;> decide
    rw [Dictionary.get?_insert, if_neg hne]

theorem mem_emails_describe {group : Group} {s : Settings} {ms : List Member} {r : Role}
    {a : String} :
    a ∈ (describe group s ms).emails r ↔ ∃ m ∈ ms, m.role = r ∧ m.email = a := by
  cases r <;> simp [describe, GroupSpec.emails, and_assoc]

theorem mailbox?_of_mem {ms : List Member}
    (hapart : ms.Pairwise fun m n => Email.equals m.email n.email = false) {m : Member}
    (hm : m ∈ ms) : mailbox? ms m.email = some m := by
  obtain ⟨front, back, rfl⟩ := List.append_of_mem hm
  refine mailbox?_of_front (Email.equals_refl _) fun x hx => ?_
  exact (List.pairwise_append.mp hapart).2.2 x hx m (by simp)

/-- A group wants nothing else than what was written down about it. -/
theorem atRest_describe (h : Tidy e)
    (hg : AlsoReconciled (describe e.group e.settings e.members) g) : AtRest g e := by
  have hlisted : ∀ m ∈ e.members, m.email ∈ g.emails m.role := by
    intro m hm
    rw [hg.emails]
    exact mem_emails_describe.mpr ⟨m, hm, rfl, rfl⟩
  refine ⟨?_, ?_, ?_, ?_, ?_⟩
  · rcases hg with rfl | rfl <;> simp [differs, describe]
  · refine Settings.desired_eq_self (fun p => ?_) h.settings
    rw [hg.get?_name]
    exact e.settings.get?_managedTable p
  · intro r a ha
    rw [hg.emails] at ha
    obtain ⟨m, hm, hrole, rfl⟩ := mem_emails_describe.mp ha
    exact ⟨m, mailbox?_of_mem h.members hm, hrole⟩
  · intro _ m hm
    exact contains_of_mem_emails (hlisted m hm) (Email.equals_refl _)
  · intro _ m hm hrole
    exact contains_of_privileged (hlisted m hm) hrole (Email.equals_refl _)

/-! ## Reconciling a snapshot -/

theorem resting_of_written (hd : Healthy d) (htidy : ∀ k e, d.groups.get? k = some e → Tidy e)
    {gs : List GroupSpec} (hgs : List.Forall₂ AlsoReconciled ((listing d).map (written d)) gs) :
    Resting gs d := by
  rw [List.forall₂_map_left_iff] at hgs
  refine ⟨hd, fun g hg => ?_, fun k e hget => ?_⟩
  · obtain ⟨x, hx, hasked⟩ := exists_of_forall₂ hgs g hg
    obtain ⟨e, hfind, rfl⟩ := (mem_listing_iff hd.wellFormed).mp hx
    rw [written_of_find hfind] at hasked
    refine ⟨e, ?_, atRest_describe (htidy _ e hfind) hasked⟩
    rw [hasked.emailId]
    exact hfind
  · have hkey := hd.wellFormed.keyed k e hget
    have hlisted : e.group ∈ listing d :=
      (mem_listing_iff hd.wellFormed).mpr ⟨e, hkey ▸ hget, rfl⟩
    obtain ⟨g, hg, hasked⟩ : ∃ g ∈ gs, AlsoReconciled (written d e.group) g :=
      exists_of_forall₂ hgs.flip e.group hlisted
    refine ⟨g, hg, ?_⟩
    rw [hasked.emailId]
    exact Email.equals_refl _

/-- A group without an address is passed over, and every other one is at rest. -/
theorem quiet_jobs_of_resting {gs : List GroupSpec} (h : Resting gs d) :
    ∀ p ∈ jobs (mode true) gs, ∃ fs, Quiet client p d fs := by
  intro p hp
  obtain ⟨g, hg, rfl⟩ := List.mem_map.mp hp
  by_cases hblank : g.emailId = ""
  · rw [reconcileGroup_of_blank hblank]
    exact ⟨_, .pure _⟩
  · obtain ⟨e, hfind, hrest⟩ := h.groups g ((dedup_sublist gs).subset hg)
    exact ⟨_, hrest.quiet_reconcileGroup hblank h.healthy.faultless hfind true⟩

/-- In a directory that can be built and was not told to fail, and whose groups are tidy, taking a
snapshot succeeds. Reconciling the groups of the snapshot, with the members of any of them to be
reconciled besides, leaves the directory exactly as it was and makes no call that is meant to change
anything. -/
theorem snapshot_applies_unchanged {d : Directory} (hd : Reachable d) (hfaultless : Faultless d)
    (htidy : ∀ k e, d.groups.get? k = some e → Tidy e) :
    ∃ c, (take.run client d).value = .ok c ∧ (take.run client d).state = d ∧
      ∀ gs, List.Forall₂ AlsoReconciled c.groups gs →
        ∀ (workers delay : Nat) (deadline : Option Nat),
          (reconcileTimed client delay deadline (mode true) workers gs d).state = d ∧
          Untouched d (reconcileTimed client.recorded delay deadline (mode true) workers gs
            (d, [])).state := by
  have htake := quiet_take (hd.healthy hfaultless)
  refine ⟨_, htake.value, htake.state, fun gs hgs workers delay deadline => ?_⟩
  have hresting := resting_of_written (hd.healthy hfaultless) htidy hgs
  have hjobs := quiet_jobs_of_resting hresting
  have horphans := hresting.quiet_deleteOrphans true
  constructor
  · refine reconcileTimed_invariant (I := (· = d)) (fun p hp t ht => ?_) (fun t ht => ?_) rfl
    · obtain ⟨fs, hquiet⟩ := hjobs p hp
      exact ht ▸ hquiet.state
    · exact ht ▸ horphans.state
  · refine reconcileTimed_invariant (I := Untouched d) (fun p hp t ht => ?_) (fun t ht => ?_)
      (untouched_nil d)
    · obtain ⟨fs, hquiet⟩ := hjobs p hp
      exact hquiet.recorded ht
    · exact horphans.recorded ht

/-- A group with an owner and two members, whose settings are the default ones and an unmanaged
one. -/
def tidyDirectory : Directory :=
  (((((empty.withGroup "team@x.io" "Team" "").withMember "team@x.io" "ann@x.io" .owner).2.withMember
    "team@x.io" "bob@x.io" .member).2.withMember "team@x.io" "cid@x.io" .member).2.withSettings
      "team@x.io" { Settings.defaults with other := .ofList [("kind", .text "groups")] }).2

theorem tidy_tidyDirectory : ∀ k e, tidyDirectory.groups.get? k = some e → Tidy e := by
  intro k e hget
  have hmem : e ∈ tidyDirectory.groups.values := Dictionary.mem_values_iff.mpr ⟨k, hget⟩
  have hall : ∀ e ∈ tidyDirectory.groups.values,
      (e.members.Pairwise fun m n => Email.equals m.email n.email = false) ∧
        ∀ q ∈ Policy.defaults, (e.settings.managed q.1).isSome := by
    decide +kernel
  exact ⟨(hall e hmem).1, (hall e hmem).2⟩

/-- All members of the groups of the snapshot may be reconciled. -/
theorem tidyDirectory_unchanged :
    ∃ c, (take.run client tidyDirectory).value = .ok c ∧
      Untouched tidyDirectory (reconcileTimed client.recorded 3 none (mode true) 2
        (c.groups.map fun g =>
          { g with settings := g.settings.insert reconcileMembersKey "true" })
        (tidyDirectory, [])).state := by
  have hreachable : Reachable tidyDirectory :=
    .withSettings _ _ (.withMember _ _ _ (.withMember _ _ _ (.withMember _ _ _
      (.withGroup _ _ _ .empty))))
  obtain ⟨c, hc, -, hall⟩ :=
    snapshot_applies_unchanged hreachable ⟨rfl, rfl, rfl⟩ tidy_tidyDirectory
  refine ⟨c, hc, (hall _ ?_ 2 3 none).2⟩
  rw [List.forall₂_map_right_iff, List.forall₂_same]
  exact fun g _ => .inr rfl

end GroupKeeper.Snapshot
