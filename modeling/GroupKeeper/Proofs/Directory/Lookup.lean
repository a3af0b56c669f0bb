import Mathlib.Data.List.Basic
import GroupKeeper.Directory
import GroupKeeper.Proofs.Dictionary
import GroupKeeper.Proofs.Reconcile.Calls

/-! What a call on a directory in memory does to the group under an address. A call changes the
group that it is about and no other; a call that is not meant to change anything changes nothing. -/

namespace GroupKeeper.Directory

variable {d : Directory} {a k : String}

/-! ## Groups under addresses -/

@[simp] theorem find?_put_self (d : Directory) (a : String) (e : DirectoryEntry) :
    (d.put a e).find? a = some e := by
  simp [find?, put, Dictionary.get?_insert]

theorem get?_put_of_ne (d : Directory) (e : DirectoryEntry) (h : k ≠ key a) :
    (d.put a e).groups.get? k = d.groups.get? k := by
  simp [put, Dictionary.get?_insert, h]

/-! ## Calls -/

/-- A call that is not meant to change anything changes nothing. -/
theorem client_of_read {c : Call} (h : c.isMutating = false) (d : Directory) :
    (client c d).2 = d := by
  cases c <;> first | rfl | simp [Call.isMutating] at h

theorem quiet_read {α : Type} {c : Call} {p : Except Failure c.Reply → Program α}
    {reply : Except Failure c.Reply} {v : α} (hc : c.isMutating = false)
    (hreply : (client c d).1 = reply) (h : Program.Quiet client (p reply) d v) :
    Program.Quiet client (Program.call c p) d v := by
  subst hreply
  exact .call hc (client_of_read hc d) h

/-- A call leaves every group alone that it is not about. -/
theorem get?_client_of_ne {c : Call} (htarget : c.target? = some a) (hne : k ≠ key a)
    (d : Directory) : (client c d).2.groups.get? k = d.groups.get? k := by
  cases c with
  | getGroup l | listGroups | listMembers l | getSettings l => rfl
  | insertGroup g =>
      obtain rfl : g.email = a := Option.some.inj htarget
      simp only [client, insertGroup]
      split
      · rfl
      · exact get?_put_of_ne _ _ hne
  | updateGroup l g =>
      obtain rfl : l = a := Option.some.inj htarget
      simp only [client, updateGroup]
      split
      · exact get?_put_of_ne _ _ hne
      · rfl
  | deleteGroup l =>
      obtain rfl : l = a := Option.some.inj htarget
      simp only [client, deleteGroup]
      split
      · simp [Dictionary.get?_erase, hne, record]
      · rfl
  | insertMember l m =>
      obtain rfl : l = a := Option.some.inj htarget
      simp only [client, insertMember]
      split
      · rfl
      · split
        · rfl
        · split
          · rfl
          · exact get?_put_of_ne _ _ hne
  | updateMember l id m =>
      obtain rfl : l = a := Option.some.inj htarget
      simp only [client, updateMember]
      split
      · rfl
      · split
        · rfl
        · exact get?_put_of_ne _ _ hne
  | deleteMember l id =>
      obtain rfl : l = a := Option.some.inj htarget
      simp only [client, deleteMember]
      split
      · rfl
      · split
        · rfl
        · exact get?_put_of_ne _ _ hne
  | patchSettings l settings =>
      obtain rfl : l = a := Option.some.inj htarget
      simp only [client, patchSettings]
      split
      · exact get?_put_of_ne _ _ hne
      · rfl

/-- A program that serves one group leaves every other group alone. -/
theorem get?_run_of_serves {α : Type} {mode : Mode} {g : GroupSpec} {p : Program α}
    (hp : p.AllCalls (Reconcile.Serves mode g)) (hne : k ≠ key g.emailId) (d : Directory) :
    (p.run client d).state.groups.get? k = d.groups.get? k := by
  refine hp.run_invariant (I := fun s : Directory => s.groups.get? k = d.groups.get? k)
    (fun c s hc hs => ?_) rfl
  rw [get?_client_of_ne hc.1 hne, hs]

/-- Apart from the groups, a call changes the record of the calls and the number of the last id. -/
theorem client_eq (c : Call) (d : Directory) : ∃ groups calls lastId, d.lastId ≤ lastId ∧
    (client c d).2 = { d with groups := groups, calls := calls, lastId := lastId } := by
  cases c <;>
    simp only [client, insertGroup, updateGroup, deleteGroup, insertMember, updateMember,
      deleteMember, patchSettings] <;>
    repeat' split
  all_goals first
    | exact ⟨_, _, _, Nat.le_refl _, rfl⟩
    | exact ⟨_, _, _, Nat.le_succ _, rfl⟩

theorem lastId_le_client (c : Call) (d : Directory) : d.lastId ≤ (client c d).2.lastId := by
  obtain ⟨groups, calls, lastId, hle, heq⟩ := client_eq c d
  rw [heq]
  exact hle

theorem lookupDelay_client (c : Call) (d : Directory) :
    (client c d).2.lookupDelay = d.lookupDelay := by
  obtain ⟨groups, calls, lastId, -, heq⟩ := client_eq c d
  rw [heq]

/-! ## Injected failures -/

/-- Two directories that were told to fail at the same. -/
structure SameFaults (d d' : Directory) : Prop where
  members : d'.failingMembers = d.failingMembers
  groups : d'.failingGroups = d.failingGroups
  list : d'.failingList = d.failingList

theorem SameFaults.refl (d : Directory) : SameFaults d d :=
  ⟨rfl, rfl, rfl⟩

theorem SameFaults.symm {d' : Directory} (h : SameFaults d d') : SameFaults d' d :=
  ⟨h.members.symm, h.groups.symm, h.list.symm⟩

theorem SameFaults.trans {d' d'' : Directory} (h : SameFaults d d') (h' : SameFaults d' d'') :
    SameFaults d d'' :=
  ⟨h'.members.trans h.members, h'.groups.trans h.groups, h'.list.trans h.list⟩

theorem SameFaults.failsMember {d' : Directory} (h : SameFaults d d') (email : String) :
    d'.failsMember email = d.failsMember email := by
  rw [Directory.failsMember, Directory.failsMember, h.members]

theorem SameFaults.failsGroup {d' : Directory} (h : SameFaults d d') (a : String) :
    d'.failsGroup a = d.failsGroup a := by
  rw [Directory.failsGroup, Directory.failsGroup, h.groups]

/-- No call changes what a directory was told about failing. -/
theorem sameFaults_client (c : Call) (d : Directory) : SameFaults d (client c d).2 := by
  obtain ⟨groups, calls, lastId, -, heq⟩ := client_eq c d
  rw [heq]
  exact ⟨rfl, rfl, rfl⟩

/-! ## Directories without injected failures -/

/-- A directory that was not told to fail. -/
structure Faultless (d : Directory) : Prop where
  members : d.failingMembers = []
  groups : d.failingGroups = []
  list : d.failingList = false

theorem Faultless.congr {d' : Directory} (h : Faultless d) (hsame : SameFaults d d') :
    Faultless d' :=
  ⟨hsame.members.trans h.members, hsame.groups.trans h.groups, hsame.list.trans h.list⟩

theorem Faultless.client (h : Faultless d) (c : Call) : Faultless (client c d).2 :=
  h.congr (sameFaults_client c d)

theorem Faultless.failsMember (h : Faultless d) (email : String) : d.failsMember email = false := by
  simp [Directory.failsMember, h.members]

theorem Faultless.failsGroup (h : Faultless d) (a : String) : d.failsGroup a = false := by
  simp [Directory.failsGroup, h.groups]

/-! ## Looking groups up -/

variable {e : DirectoryEntry}

theorem getGroup_of_find (h : d.failsGroup a = false) (hfind : d.find? a = some e) :
    (Directory.client (.getGroup a) d).1 = .ok e.group := by
  simp [Directory.client, getGroup, h, hfind]

theorem getGroup_of_missing (h : d.failsGroup a = false) (hfind : d.find? a = none) :
    (Directory.client (.getGroup a) d).1 = .error (groupNotFound a) := by
  simp [Directory.client, getGroup, h, hfind]

theorem getGroup_of_fails (h : d.failsGroup a = true) :
    (Directory.client (.getGroup a) d).1 = .error (injected a) := by
  simp [Directory.client, getGroup, h]

theorem getSettings_of_find (h : d.failsGroup a = false) (hfind : d.find? a = some e) :
    (Directory.client (.getSettings a) d).1 = .ok e.settings := by
  simp [Directory.client, getSettings, h, hfind]

theorem getSettings_of_missing (h : d.failsGroup a = false) (hfind : d.find? a = none) :
    (Directory.client (.getSettings a) d).1 = .error (groupNotFound a) := by
  simp [Directory.client, getSettings, h, hfind]

theorem getSettings_of_fails (h : d.failsGroup a = true) :
    (Directory.client (.getSettings a) d).1 = .error (injected a) := by
  simp [Directory.client, getSettings, h]

@[simp] theorem isMissing_groupNotFound (a : String) : isMissing (groupNotFound a) = true :=
  rfl

end GroupKeeper.Directory
