import GroupKeeper.Proofs.Interleaving
import GroupKeeper.Proofs.Replay
import GroupKeeper.Proofs.Reconcile.Cancellation

/-! Groups are deleted last. When all that is done for the wanted groups is done, the groups are
listed, and those with no equivalent among the wanted ones are deleted, whatever failed before and
whatever fails on the way. In a directory in memory each deletion finds its group and hits no
other. -/

namespace GroupKeeper.Reconcile

open Directory Program

variable {σ : Type} {gs : List GroupSpec}

/-! ## Work on the wanted groups -/

/-- A call about a wanted group that does not delete it. -/
def Keeps (gs : List GroupSpec) (c : Call) : Prop :=
  (∃ g ∈ gs, c.target? = some g.emailId) ∧ ∀ a, c ≠ .deleteGroup a

theorem keeps_of_jobs (mode : Mode) (gs : List GroupSpec) :
    ∀ p ∈ jobs mode gs, p.AllCalls (Keeps gs) := by
  intro p hp
  obtain ⟨g, hg, rfl⟩ := List.mem_map.mp hp
  have hwanted : g ∈ gs := (dedup_sublist gs).subset hg
  refine ((allCalls_reconcileGroup mode g).and
    (allCalls_reconcileGroup_ne_deleteGroup mode g)).mono ?_
  exact fun c hc => ⟨⟨g, hwanted, hc.1.1⟩, hc.2⟩

section Noted

variable {client : Client σ} {mode : Mode} {s : σ}

theorem noted_endState {ps : List (Program Failures)} (hps : ps ⊆ jobs mode gs) :
    Noted client (Keeps gs) s (endState client.recorded ps (s, [])) :=
  endState_invariant (fun p hp _ ht => ht.run (keeps_of_jobs mode gs p (hps hp))) .nil

theorem noted_interleave (client : Client σ) (mode : Mode) (gs : List GroupSpec) (s : σ)
    (order : List Nat) :
    Noted client (Keeps gs) s (interleave client.recorded order (jobs mode gs) (s, [])).2 := by
  have hjobs : AllCallsAt (fun _ => Keeps gs) (jobs mode gs) :=
    fun _ p hp => keeps_of_jobs mode gs p (List.mem_of_getElem? hp)
  exact interleave_invariant hjobs (fun _ _ _ hc ht => ht.call hc) .nil order

/-! ## The last calls -/

/-- Calls on the wanted groups, then the request for all groups, then the deletions that the answer
to it calls for. -/
def DeletesLast (client : Client σ) (gs : List GroupSpec) (s : σ) (calls : List Call) : Prop :=
  ∃ before, (∀ c ∈ before, Keeps gs c) ∧
    calls = before ++ .listGroups :: deletions gs (client .listGroups (client.after before s)).1

theorem deletesLast_deleteOrphans (hconfirm : mode.confirm = true) {t : σ × List Call}
    (ht : Noted client (Keeps gs) s t) :
    DeletesLast client gs s ((deleteOrphans mode gs).run client.recorded t).state.2 := by
  obtain ⟨now, before⟩ := t
  refine ⟨before, ht.calls, ?_⟩
  rw [run_recorded, calls_deleteOrphans_of_confirm client hconfirm, ← ht.state]

end Noted

/-! ## One deletion -/

/-- Deleting what is under an address succeeds, takes away a group of that address, and leaves all
the others as they are. -/
structure TakesAway (d : Directory) (a : String) : Prop where
  found : ∃ e, d.find? a = some e ∧ e.group.email = a
  succeeds : (client (.deleteGroup a) d).1 = .ok ()
  get? : ∀ k, (client (.deleteGroup a) d).2.groups.get? k =
    if k = key a then none else d.groups.get? k

section TakesAway

variable {d : Directory}

theorem get?_after_deleteGroups {xs : List Group} {k : String}
    (hk : k ∉ xs.map (key ·.email)) (d : Directory) :
    (client.after (xs.map (.deleteGroup ·.email)) d).groups.get? k = d.groups.get? k := by
  refine Client.after_invariant (I := fun t : Directory => t.groups.get? k = d.groups.get? k)
    (fun c hc t ht => ?_) rfl
  obtain ⟨x, hx, rfl⟩ := List.mem_map.mp hc
  have hne : k ≠ key x.email := fun heq => hk (List.mem_map.mpr ⟨x, hx, heq.symm⟩)
  rw [get?_client_of_ne rfl hne, ht]

/-- When its turn comes, every listed group is still there. -/
theorem takesAway_listed (hd : WellFormed d) {front back : List Group} {x : Group}
    (hsplit : (front ++ x :: back).Sublist (listing d)) :
    TakesAway (client.after (front.map (.deleteGroup ·.email)) d) x.email := by
  have hfresh : key x.email ∉ front.map (key ·.email) := by
    have hkeys := (nodup_keys_listing hd).sublist (hsplit.map _)
    rw [List.map_append, List.map_cons] at hkeys
    exact fun hmem => (List.nodup_append.mp hkeys).2.2 _ hmem _ (by simp) rfl
  have hlisted : x ∈ listing d := hsplit.subset (by simp)
  obtain ⟨e, hget, he⟩ := (mem_listing_iff hd).mp hlisted
  have hfind : (client.after (front.map (.deleteGroup ·.email)) d).find? x.email = some e :=
    (get?_after_deleteGroups hfresh d).trans hget
  obtain ⟨hok, hget'⟩ := client_deleteGroup hfind
  exact ⟨⟨e, hfind, congrArg Group.email he⟩, hok, hget'⟩

/-- A deletion comes after the calls that delete nothing. -/
theorem exists_of_append_eq {before after front back : List Call} {a : String}
    (hbefore : ∀ b, .deleteGroup b ∉ before)
    (h : before ++ after = front ++ .deleteGroup a :: back) :
    ∃ middle, front = before ++ middle ∧ after = middle ++ .deleteGroup a :: back := by
  rcases List.append_eq_append_iff.mp h with ⟨middle, hfront, hafter⟩ | ⟨rest, hrest, hafter⟩
  · exact ⟨middle, hfront, hafter⟩
  · cases rest with
    | nil => exact ⟨[], by simpa using hrest.symm, by simpa using hafter.symm⟩
    | cons c rest =>
        obtain ⟨rfl, -⟩ := List.cons.inj hafter
        exact absurd (hrest ▸ by simp) (hbefore a)

theorem takesAway_of_deletesLast (hd : WellFormed d) {calls front back : List Call} {a : String}
    (hlast : DeletesLast client gs d calls) (hsplit : calls = front ++ .deleteGroup a :: back) :
    TakesAway (client.after front d) a := by
  obtain ⟨before, hbefore, rfl⟩ := hlast
  have hkeeps : ∀ b, Call.deleteGroup b ∉ before ++ [.listGroups] := by
    intro b hb
    rcases List.mem_append.mp hb with hb | hb
    · exact (hbefore _ hb).2 b rfl
    · simp at hb
  rw [List.append_cons] at hsplit
  obtain ⟨middle, rfl, hmiddle⟩ := exists_of_append_eq hkeeps hsplit
  have hwell : WellFormed (client.after before d) :=
    Client.after_invariant (fun c _ _ ht => ht.client c) hd
  rw [Client.after_append, Client.after_append, Client.after_cons, Client.after_nil,
    client_of_read rfl]
  generalize client.after before d = t at hmiddle hwell ⊢
  cases hlist : t.failingList with
  | true => simp [client, listGroups, hlist, deletions] at hmiddle
  | false =>
      rw [client_listGroups hlist, deletions_ok] at hmiddle
      obtain ⟨first, rest, hxs, rfl, hrest⟩ := List.map_eq_append_iff.mp hmiddle
      obtain ⟨x, last, rfl, hx, -⟩ := List.map_eq_cons_iff.mp hrest
      obtain rfl := Call.deleteGroup.inj hx
      have hlisted : (orphans gs (listing t)).Sublist (listing t) := List.filter_sublist
      exact takesAway_listed hwell (hxs ▸ hlisted)

end TakesAway

/-! ## Whole runs -/

/-- Confirmed runs of any wanted groups against any client. A run that ends makes its deletions
last, and so does one whose jobs make their calls in any other order; a run that is dropped deletes
nothing. In a directory in memory, whatever it was told to fail at, each deletion takes away the
group that it is about and no other. -/
theorem deletions_last (isMissing : Failure → Bool) (gs : List GroupSpec) :
    (∀ {σ : Type} (client : Client σ) (s : σ),
      (∀ (workers delay : Nat) (deadline : Option Nat),
        let out :=
          reconcileTimed client.recorded delay deadline ⟨true, isMissing⟩ workers gs (s, [])
        (out.value.isSome → DeletesLast client gs s out.state.2) ∧
          (out.value = none → ∀ c ∈ out.state.2, Keeps gs c)) ∧
      ∀ order : List Nat,
        let worked := (interleave client.recorded order (jobs ⟨true, isMissing⟩ gs) (s, [])).2
        (∀ c ∈ worked.2, Keeps gs c) ∧ DeletesLast client gs s
          ((deleteOrphans ⟨true, isMissing⟩ gs).run client.recorded worked).state.2) ∧
    ∀ (d : Directory) (calls front back : List Call) (a : String), Reachable d →
      DeletesLast client gs d calls → calls = front ++ .deleteGroup a :: back →
      TakesAway (client.after front d) a := by
  refine ⟨fun client s => ⟨fun workers delay deadline => ⟨fun hends => ?_, fun hdropped => ?_⟩,
    fun order => ?_⟩, fun d calls front back a hd hlast hsplit => ?_⟩
  · obtain ⟨fs, hfs⟩ := Option.isSome_iff_exists.mp hends
    rw [(reconcileTimed_completed hfs).1, state_run_reconcileGroups]
    exact deletesLast_deleteOrphans rfl (noted_endState (List.Subset.refl _))
  · obtain ⟨-, n, hstate⟩ := reconcileTimed_dropped hdropped
    rw [hstate]
    exact (noted_endState (List.take_sublist n _).subset).calls
  · have hnoted := noted_interleave client ⟨true, isMissing⟩ gs s order
    exact ⟨hnoted.calls, deletesLast_deleteOrphans rfl hnoted⟩
  · exact takesAway_of_deletesLast hd.wellFormed hlast hsplit

/-- Two groups, and the failure to look up a third one. -/
def unreadableDirectory : Directory :=
  ((empty.withGroup "old@x.io" "" "").withGroup "gone@x.io" "" "").withFailingGroup "new@x.io"

/-- The third group is wanted, and one without an address. -/
def unreadableSpecs : List GroupSpec :=
  [{ GroupSpec.blank with emailId := "new@x.io", owners := ["ann@x.io"] }, .blank]

/-- The calls of a run with two workers. -/
def unreadableCalls (deadline : Option Nat) : List Call :=
  (reconcileTimed client.recorded 3 deadline ⟨true, isMissing⟩ 2 unreadableSpecs
    (unreadableDirectory, [])).state.2

/-- When the wanted groups are done, the two others are listed, in the order of their addresses. -/
theorem listing_unreadable :
    listing (endState client (jobs ⟨true, isMissing⟩ unreadableSpecs) unreadableDirectory) =
      [⟨"2", "gone@x.io", "", ""⟩, ⟨"1", "old@x.io", "", ""⟩] := by
  have hgroups : (endState client (jobs ⟨true, isMissing⟩ unreadableSpecs)
      unreadableDirectory).groups.values.map (·.group) =
        [⟨"2", "gone@x.io", "", ""⟩, ⟨"1", "old@x.io", "", ""⟩] := by
    decide +kernel
  rw [listing, hgroups, List.mergeSort_of_pairwise (by decide +kernel)]

theorem unreadableCalls_none :
    unreadableCalls none =
      (Program.sequence (jobs ⟨true, isMissing⟩ unreadableSpecs)).calls client
          unreadableDirectory ++
        .listGroups :: [.deleteGroup "gone@x.io", .deleteGroup "old@x.io"] := by
  obtain ⟨fs, hfs⟩ : ∃ fs, (reconcileTimed client.recorded 3 none ⟨true, isMissing⟩ 2
      unreadableSpecs (unreadableDirectory, [])).value = some fs :=
    Option.isSome_iff_exists.mp (by decide +kernel)
  have horphans : (deleteOrphans ⟨true, isMissing⟩ unreadableSpecs).calls client
      (endState client (jobs ⟨true, isMissing⟩ unreadableSpecs) unreadableDirectory) =
        .listGroups :: [.deleteGroup "gone@x.io", .deleteGroup "old@x.io"] := by
    refine (calls_deleteOrphans unreadableSpecs).trans ?_
    rw [listing_unreadable]
    decide +kernel
  rw [unreadableCalls, reconcileTimed_recorded hfs, calls_run_reconcileGroups, horphans]

/-- Though both wanted groups fail, the two others are deleted, in the order of their addresses, but
not if the run is dropped before the lookup ends. -/
theorem unreadable_deletions_last :
    DeletesLast client unreadableSpecs unreadableDirectory (unreadableCalls none) ∧
      (∀ c ∈ unreadableCalls (some 2), Keeps unreadableSpecs c) ∧
      TakesAway (client.after ((unreadableCalls none).take 7) unreadableDirectory) "gone@x.io" := by
  obtain ⟨hruns, hdirectory⟩ := deletions_last isMissing unreadableSpecs
  have hreachable : Reachable unreadableDirectory :=
    .withFailingGroup _ (.withGroup _ _ _ (.withGroup _ _ _ .empty))
  have hlast : DeletesLast client unreadableSpecs unreadableDirectory (unreadableCalls none) :=
    ((hruns client unreadableDirectory).1 2 3 none).1 (by decide +kernel)
  have hdropped : ∀ c ∈ unreadableCalls (some 2), Keeps unreadableSpecs c :=
    ((hruns client unreadableDirectory).1 2 3 (some 2)).2 (by decide +kernel)
  have hsplit : unreadableCalls none = (unreadableCalls none).take 7 ++
      .deleteGroup "gone@x.io" :: [.deleteGroup "old@x.io"] := by
    rw [unreadableCalls_none]
    decide +kernel
  exact ⟨hlast, hdropped, hdirectory _ _ _ _ _ hreachable hlast hsplit⟩

end GroupKeeper.Reconcile
