import GroupKeeper.Proofs.Reconcile.Members

/-! Removals by themselves. On a group that exists they take away exactly the members who are not
to be kept and can be removed, one by one and by their ids, although the list that they go by was
read before the first of them. Of the others each who should have gone is told of. -/

namespace GroupKeeper.Reconcile

open Directory Program

/-- A member with the mailbox of an address that is to be kept. -/
def Kept (keep : List String) (m : Member) : Prop :=
  ∃ a ∈ keep, Email.equals a m.email = true

instance (keep : List String) : DecidablePred (Kept keep) :=
  fun m => inferInstanceAs (Decidable (∃ a ∈ keep, Email.equals a m.email = true))

/-- A member whose address was made to fail. -/
def Stuck (d : Directory) (m : Member) : Prop :=
  Text.lower m.email ∈ d.failingMembers

instance (d : Directory) : DecidablePred (Stuck d) :=
  fun m => inferInstanceAs (Decidable (Text.lower m.email ∈ d.failingMembers))

/-- What is left of a group, of the other groups and to be told after a removal that spares some
members. -/
structure RemovesExactly (d : Directory) (g : GroupSpec) (e : DirectoryEntry)
    (spared : Member → Prop) [DecidablePred spared] (out : Outcome Directory Failures) : Prop where
  /-- The group is the same but for its members. Those who are spared and those who are stuck stay,
  in their order and as they were. -/
  group : out.state.find? g.emailId =
    some { e with members := e.members.filter fun m => spared m ∨ Stuck d m }
  others : ∀ k, k ≠ key g.emailId → out.state.groups.get? k = d.groups.get? k
  /-- Everybody is told of who is stuck and not spared, in the order of the members. -/
  failures : out.value.toList =
    (e.members.filter fun m => ¬ spared m ∧ Stuck d m).map (removalFailure g)

section Removals

variable {d : Directory} {g : GroupSpec} {e : DirectoryEntry} {keep : List String} {m : Member}

theorem contains_iff_kept : Email.contains keep m.email = true ↔ Kept keep m :=
  List.any_eq_true

theorem failsMember_iff_stuck : d.failsMember m.email = true ↔ Stuck d m :=
  List.contains_iff_mem

/-- Whoever may not be removed or is to be kept is spared. -/
theorem removesExactly_removeUnlisted (hd : WellFormed d) (hfind : d.find? g.emailId = some e)
    (keep : List String) (removable : Member → Bool) (spared : Member → Prop) [DecidablePred spared]
    (hspared : ∀ m, spared m ↔ removable m = false ∨ Kept keep m) :
    RemovesExactly d g e spared ((removeUnlisted (mode true) g keep removable).run client d) := by
  have hgoes : ∀ m, (removable m && !Email.contains keep m.email) = !decide (spared m) := by
    intro m
    rw [Bool.eq_iff_iff]
    simp [hspared, ← contains_iff_kept]
  obtain ⟨htold, hstate⟩ := leaves_removeUnlisted keep removable d hd (.refl d) hfind
  refine ⟨?_, ?_, ?_⟩
  · rw [hstate]
    refine congrArg (fun ms => some { e with members := ms }) (List.filter_congr fun m _ => ?_)
    rw [hgoes, releases, Bool.eq_iff_iff]
    simp [← failsMember_iff_stuck, or_comm]
  · intro k hk
    exact get?_run_of_serves (allCalls_removeUnlisted (mode true) g keep removable) hk d
  · rw [htold, refusals, List.filter_filter]
    refine congrArg _ (List.filter_congr fun m _ => ?_)
    rw [hgoes, Bool.eq_iff_iff]
    simp [← failsMember_iff_stuck, and_comm]

end Removals

/-- Confirmed removals from a group that exists, in any directory that can be built, whatever it was
told to fail at. Removing members spares those who are to be kept, and removing owners and managers
spares the mere members too. Everybody else goes who is not stuck. -/
theorem removals_exact {d : Directory} (hd : Reachable d) {g : GroupSpec} {e : DirectoryEntry}
    (hfind : d.find? g.emailId = some e) (keep : List String) :
    RemovesExactly d g e (Kept keep) ((removeMembers (mode true) g keep).run client d) ∧
    RemovesExactly d g e (fun m => Kept keep m ∨ m.role = .member)
      ((removeOwnersOrManagers (mode true) g keep).run client d) := by
  constructor
  · -- The step is entered with an event, which is neither told of nor changes anything.
    have hall := removesExactly_removeUnlisted hd.wellFormed hfind keep (fun _ => true) (Kept keep)
      (by simp)
    exact ⟨hall.group, hall.others, hall.failures⟩
  · have hprivileged := removesExactly_removeUnlisted hd.wellFormed hfind keep
      (fun m => m.role != .member) (fun m => Kept keep m ∨ m.role = .member) (by simp [or_comm])
    exact ⟨hprivileged.group, hprivileged.others, hprivileged.failures⟩

/-- An owner under another spelling, a manager who is stuck, a mere member and a second owner. -/
def crowdedEntry : DirectoryEntry where
  group := ⟨"1", "team@x.io", "Team", ""⟩
  members := [⟨"2", "ann.lee@x.io", .owner⟩, ⟨"3", "bob@x.io", .manager⟩,
    ⟨"4", "cid@x.io", .member⟩, ⟨"5", "dan@x.io", .owner⟩]
  settings := .unset

/-- A directory with these members in its only group. -/
def crowdedDirectory : Directory :=
  (crowdedEntry.members.foldl (fun d m => (d.withMember "Team@x.io" m.email m.role).2)
    (empty.withGroup "team@x.io" "Team" "")).withFailingMember "Bob@x.io"

/-- The same group under other capitals. -/
def crowdedSpec : GroupSpec :=
  { GroupSpec.blank with emailId := "TEAM@x.io" }

/-- Of four members two are left where one is kept, or three if mere members are spared. Either way
it is told that the manager could not be removed. -/
theorem crowded_removals :
    (crowdedEntry.members.filter fun m => Kept ["AnnLee@x.io"] m ∨ Stuck crowdedDirectory m) =
      [⟨"2", "ann.lee@x.io", .owner⟩, ⟨"3", "bob@x.io", .manager⟩] ∧
    RemovesExactly crowdedDirectory crowdedSpec crowdedEntry (Kept ["AnnLee@x.io"])
      ((removeMembers (mode true) crowdedSpec ["AnnLee@x.io"]).run client crowdedDirectory) ∧
    RemovesExactly crowdedDirectory crowdedSpec crowdedEntry
      (fun m => Kept ["AnnLee@x.io"] m ∨ m.role = .member)
      ((removeOwnersOrManagers (mode true) crowdedSpec ["AnnLee@x.io"]).run client
        crowdedDirectory) := by
  have hreachable : Reachable crowdedDirectory :=
    .withFailingMember _ (.withMember _ _ _ (.withMember _ _ _ (.withMember _ _ _
      (.withMember _ _ _ (.withGroup _ _ _ .empty)))))
  have hfind : crowdedDirectory.find? crowdedSpec.emailId = some crowdedEntry := by
    decide +kernel
  exact ⟨by decide +kernel, removals_exact hreachable hfind ["AnnLee@x.io"]⟩

end GroupKeeper.Reconcile
