import Mathlib.Data.List.Nodup
import GroupKeeper.Proofs.Directory.Changes
import GroupKeeper.Proofs.Failure

/-! Removing the groups that are not wanted. Groups are listed under their own addresses, which are
all different, so that every removal finds its group and hits no other. -/

namespace GroupKeeper.Reconcile

open Directory Program

variable {d : Directory}

/-- The groups of a directory as they are listed. -/
def listing (d : Directory) : List Group :=
  (d.groups.values.map (·.group)).mergeSort fun a b => a.email ≤ b.email

theorem client_listGroups (h : d.failingList = false) :
    client .listGroups d = (.ok (listing d), d) := by
  simp only [client, listGroups, h]
  rfl

theorem mem_listing_iff (h : WellFormed d) {x : Group} :
    x ∈ listing d ↔ ∃ e, d.groups.get? (key x.email) = some e ∧ e.group = x := by
  rw [listing, List.mem_mergeSort, List.mem_map]
  constructor
  · rintro ⟨e, he, rfl⟩
    obtain ⟨k, hget⟩ := Dictionary.mem_values_iff.mp he
    rw [h.keyed k e hget] at hget
    exact ⟨e, hget, rfl⟩
  · rintro ⟨e, hget, rfl⟩
    exact ⟨e, Dictionary.mem_values_iff.mpr ⟨_, hget⟩, rfl⟩

theorem nodup_keys_listing (h : WellFormed d) : ((listing d).map (key ·.email)).Nodup := by
  have hkeys : d.groups.values.map (fun e => key e.group.email) = d.groups.keys := by
    rw [Dictionary.values, Dictionary.keys, List.map_map]
    refine List.map_congr_left fun entry hentry => ?_
    exact (h.keyed entry.1 entry.2 (Dictionary.get?_eq_some_iff.mpr hentry)).symm
  have hperm := (List.mergeSort_perm (d.groups.values.map (·.group)) fun a b => a.email ≤ b.email)
  refine (hperm.map _).nodup_iff.mpr ?_
  rw [List.map_map]
  exact hkeys ▸ d.groups.nodup_keys

/-- One removal takes away the group that it is about, and nothing else. -/
theorem run_removeOrphan {x : Group} {e : DirectoryEntry} (hfind : d.find? x.email = some e) :
    ((removeOrphan (mode true) x).run client d).value = .none ∧
      ∀ k, ((removeOrphan (mode true) x).run client d).state.groups.get? k =
        if k = key x.email then none else d.groups.get? k := by
  obtain ⟨hok, hget⟩ := client_deleteGroup hfind
  simp only [removeOrphan, mode_confirm, if_true, emit_bind]
  rw [ask_bind, run_log, run_call, hok]
  exact ⟨rfl, hget⟩

/-- Removals of groups under different addresses. -/
theorem run_removeOrphans {xs : List Group}
    (hxs : ∀ x ∈ xs, ∃ e, d.find? x.email = some e) (hkeys : (xs.map (key ·.email)).Nodup) :
    ((gather (removeOrphan (mode true)) xs).run client d).value = .none ∧
      ∀ k, ((gather (removeOrphan (mode true)) xs).run client d).state.groups.get? k =
        if k ∈ xs.map (key ·.email) then none else d.groups.get? k := by
  induction xs generalizing d with
  | nil => exact ⟨rfl, fun k => by simp [gather]⟩
  | cons x xs ih =>
      obtain ⟨⟨e, hfind⟩, hrest⟩ := List.forall_mem_cons.mp hxs
      obtain ⟨hfresh, hkeys⟩ := List.nodup_cons.mp hkeys
      obtain ⟨hvalue, hget⟩ := run_removeOrphan hfind
      have hleft : ∀ y ∈ xs, ∃ e,
          ((removeOrphan (mode true) x).run client d).state.find? y.email = some e := by
        intro y hy
        have hne : key y.email ≠ key x.email :=
          fun heq => hfresh (List.mem_map.mpr ⟨y, hy, heq⟩)
        obtain ⟨e, hfind⟩ := hrest y hy
        exact ⟨e, by rw [find?, hget, if_neg hne]; exact hfind⟩
      obtain ⟨hvalue', hget'⟩ := ih hleft hkeys
      rw [gather, run_bind, run_bind]
      refine ⟨by rw [hvalue, hvalue']; rfl, fun k => ?_⟩
      rw [run_pure, hget', hget]
      by_cases hk : k = key x.email
      · simp [hk]
      · simp [hk]

/-- Whether a group of the directory has an equivalent among the wanted ones. -/
def isWanted (gs : List GroupSpec) (e : DirectoryEntry) : Bool :=
  gs.any (Email.equals ·.emailId e.group.email)

/-- Exactly the wanted groups are left, as they were. -/
theorem run_deleteOrphans (hd : WellFormed d) (hlist : d.failingList = false)
    (gs : List GroupSpec) :
    ((deleteOrphans (mode true) gs).run client d).value = .none ∧
      ∀ k, ((deleteOrphans (mode true) gs).run client d).state.groups.get? k =
        (d.groups.get? k).filter (isWanted gs) := by
  rw [deleteOrphans, ask_bind, run_call, client_listGroups hlist]
  have hfound : ∀ x ∈ orphans gs (listing d), ∃ e, d.find? x.email = some e := by
    intro x hx
    obtain ⟨e, hget, -⟩ := (mem_listing_iff hd).mp (List.mem_filter.mp hx).1
    exact ⟨e, hget⟩
  have hkeys : ((orphans gs (listing d)).map (key ·.email)).Nodup :=
    (nodup_keys_listing hd).sublist (List.filter_sublist.map _)
  obtain ⟨hvalue, hget⟩ := run_removeOrphans hfound hkeys
  refine ⟨hvalue, fun k => (hget k).trans ?_⟩
  cases hk : d.groups.get? k with
  | none => simp
  | some e =>
      have hkey := hd.keyed k e hk
      have hiff : k ∈ (orphans gs (listing d)).map (key ·.email) ↔ isWanted gs e = false := by
        rw [List.mem_map]
        constructor
        · rintro ⟨x, hx, hxk⟩
          obtain ⟨hlisted, hx⟩ := List.mem_filter.mp hx
          obtain ⟨e', hget', rfl⟩ := (mem_listing_iff hd).mp hlisted
          rw [hxk, hk] at hget'
          obtain rfl := Option.some.inj hget'
          simpa [isWanted] using hx
        · intro h
          have hlisted : e.group ∈ listing d := (mem_listing_iff hd).mpr ⟨e, hkey ▸ hk, rfl⟩
          exact ⟨e.group, List.mem_filter.mpr ⟨hlisted, by simpa [isWanted] using h⟩, hkey.symm⟩
      simp only [hiff, Option.filter]
      cases isWanted gs e <;> rfl

/-- Where the groups cannot be listed, all of them are left. -/
theorem get?_run_deleteOrphans (hd : WellFormed d) (gs : List GroupSpec) (k : String) :
    ((deleteOrphans (mode true) gs).run client d).state.groups.get? k =
      if d.failingList then d.groups.get? k else (d.groups.get? k).filter (isWanted gs) := by
  cases hlist : d.failingList with
  | true =>
      rw [deleteOrphans, ask_bind, run_call]
      simp [client, listGroups, hlist]
  | false => exact (run_deleteOrphans hd hlist gs).2 k

/-! ## Removals as calls -/

/-- The deletions that an answer to the request for all groups calls for: of every listed group to
which no wanted one is equivalent, in the order of the listing. -/
def deletions (gs : List GroupSpec) : Except Failure (List Group) → List Call
  | .error _ => []
  | .ok listed =>
    (listed.filter fun x => ∀ g ∈ gs, Email.equals g.emailId x.email = false).map
      (.deleteGroup ·.email)

theorem deletions_ok (gs : List GroupSpec) (listed : List Group) :
    deletions gs (.ok listed) = (orphans gs listed).map (.deleteGroup ·.email) := by
  refine congrArg _ (List.filter_congr fun x _ => ?_)
  rw [Bool.eq_iff_iff]
  simp

section Calls

variable {σ : Type} (client : Client σ) {mode : Mode} (hconfirm : mode.confirm = true) (s : σ)
include hconfirm

theorem calls_removeOrphan (x : Group) :
    (removeOrphan mode x).calls client s = [.deleteGroup x.email] := by
  simp only [removeOrphan, hconfirm, if_true, emit_bind]
  rw [ask_bind, calls_log, calls_call]
  cases (client (.deleteGroup x.email) s).1 <;> rfl

theorem calls_removeOrphans (xs : List Group) :
    (gather (removeOrphan mode) xs).calls client s = xs.map (.deleteGroup ·.email) := by
  induction xs generalizing s with
  | nil => rfl
  | cons x xs ih => simp [gather, calls_bind, calls_removeOrphan client hconfirm, ih]

/-- Whatever becomes of the deletions, each of them is tried once. -/
theorem calls_deleteOrphans_of_confirm (gs : List GroupSpec) :
    (deleteOrphans mode gs).calls client s =
      .listGroups :: deletions gs (client .listGroups s).1 := by
  rw [deleteOrphans, ask_bind, calls_call]
  cases (client .listGroups s).1 with
  | error f => rfl
  | ok listed => rw [deletions_ok, ← calls_removeOrphans client hconfirm (client .listGroups s).2]

end Calls

/-- Every group that is not wanted is deleted by one call, in the order of the listing. -/
theorem calls_deleteOrphans (gs : List GroupSpec) :
    (deleteOrphans (mode true) gs).calls client d = .listGroups ::
      if d.failingList then [] else (orphans gs (listing d)).map (.deleteGroup ·.email) := by
  rw [calls_deleteOrphans_of_confirm client (mode_confirm true)]
  cases hlist : d.failingList with
  | true => simp [client, listGroups, hlist, deletions]
  | false => rw [client_listGroups hlist, deletions_ok, if_neg Bool.false_ne_true]

end GroupKeeper.Reconcile
