import GroupKeeper.Proofs.Membership
import GroupKeeper.Proofs.Directory.Changes

/-! A directory in memory as a client that can be relied on, whatever it was told to fail at. -/

namespace GroupKeeper.Directory

variable {d : Directory} {a id : String}

/-- A call that fails leaves every group alone. -/
theorem groups_client_of_error {c : Call} {f : Failure} (h : (client c d).1 = .error f) :
    (client c d).2.groups = d.groups := by
  cases c with
  | getGroup k | listGroups | listMembers k | getSettings k => rfl
  | insertGroup g =>
      simp only [client, insertGroup] at h ⊢
      split
      · rfl
      · next hfresh => simp [hfresh] at h
  | updateGroup k g =>
      simp only [client, updateGroup] at h ⊢
      split
      · next e hfind => simp [hfind] at h
      · rfl
  | deleteGroup k =>
      simp only [client, deleteGroup] at h ⊢
      split
      · next e hfind => simp [hfind] at h
      · rfl
  | insertMember k m =>
      simp only [client, insertMember] at h ⊢
      split
      · rfl
      · next hmember =>
        split
        · rfl
        · next e hfind =>
          split
          · rfl
          · next hfresh => simp [hmember, hfind, hfresh] at h
  | updateMember k i m =>
      simp only [client, updateMember] at h ⊢
      split
      · rfl
      · next hmember =>
        split
        · rfl
        · next e current hfind => simp [hmember, hfind] at h
  | deleteMember k i =>
      simp only [client, deleteMember] at h ⊢
      split
      · rfl
      · next e current hfind =>
        split
        · rfl
        · next hmember => simp [hfind, hmember] at h
  | patchSettings k settings =>
      simp only [client, patchSettings] at h ⊢
      split
      · next e hfind => simp [hfind] at h
      · rfl

/-! ## Members under ids -/

/-- The member of a group under an id. -/
def member? (d : Directory) (a id : String) : Option Member :=
  (d.find? a).bind fun e => e.members.find? (·.id == id)

theorem member?_of_find {e : DirectoryEntry} (h : d.find? a = some e) :
    d.member? a id = e.members.find? (·.id == id) := by
  rw [member?, h, Option.bind_some]

theorem WellFormed.mem_iff_member? (h : WellFormed d) {e : DirectoryEntry}
    (hfind : d.find? a = some e) (m : Member) :
    m ∈ e.members ↔ d.member? a m.id = some m := by
  rw [member?_of_find hfind]
  exact ⟨find?_of_nodup_map (h.nodup_members hfind), List.mem_of_find?_eq_some⟩

theorem find?_replaceFirst_id (id i : String) (role : Role) (ms : List Member) :
    (replaceFirst (·.id == id) (fun m => { m with role }) ms).find? (·.id == i) =
      if i = id then (ms.find? (·.id == i)).map fun m => { m with role }
      else ms.find? (·.id == i) := by
  induction ms with
  | nil => simp [replaceFirst]
  | cons m ms ih =>
      by_cases hid : m.id = id
      · by_cases hi : i = id
        · simp [replaceFirst, hid, hi]
        · simp [replaceFirst, hid, hi, Ne.symm hi]
      · by_cases hi : m.id = i
        · have hne : i ≠ id := fun h => hid (hi.trans h)
          simp [replaceFirst, hi, hne]
        · simp [replaceFirst, hid, hi, ih]

theorem find?_append_of_ne (ms : List Member) {m : Member} (h : m.id ≠ id) :
    (ms ++ [m]).find? (·.id == id) = ms.find? (·.id == id) := by
  simp [List.find?_append, h]

theorem member?_updated {m u : Member} (h : (client (.updateMember a id m) d).1 = .ok u)
    (i : String) : (client (.updateMember a id m) d).2.member? a i =
      if i = id then (d.member? a i).map fun x => { x with role := m.role } else d.member? a i := by
  simp only [client, updateMember] at h ⊢
  split
  · next hfails => simp [hfails] at h
  · next hfails =>
    split
    · next hmissing => simp [hfails, hmissing] at h
    · next hmember =>
      have hfind := find?_of_findMember (d := d) hmember
      rw [member?_of_find (find?_put_self ..), member?_of_find hfind, find?_replaceFirst_id]

theorem member?_inserted (hd : WellFormed d) {m u : Member}
    (h : (client (.insertMember a m) d).1 = .ok u) : ∃ id, d.member? a id = none ∧
      ∀ i, i ≠ id → (client (.insertMember a m) d).2.member? a i = d.member? a i := by
  simp only [client, insertMember] at h ⊢
  split
  · next hfails => simp [hfails] at h
  · next hfails =>
    split
    · next hmissing => simp [hfails, hmissing] at h
    · next e hrecorded =>
      have hfind : d.find? a = some e := hrecorded
      split
      · next hthere => simp [hfails, hrecorded, hthere] at h
      · refine ⟨toString (d.lastId + 1), ?_, fun i hi => ?_⟩
        · rw [member?_of_find hfind, List.find?_eq_none]
          intro x hx hid
          refine not_issued_succ d.lastId (hd.issued _ e hfind _ ?_)
          exact List.mem_cons_of_mem _ (List.mem_map.mpr ⟨x, hx, eq_of_beq hid⟩)
        · rw [member?_of_find (find?_put_self ..), member?_of_find hfind]
          exact find?_append_of_ne _ (Ne.symm hi)

/-- Failures are the only thing in which a well-formed directory may let its callers down. -/
def membership (a : String) : Membership client a where
  valid := WellFormed
  member? d id := d.member? a id
  valid_client c _ hd := hd.client c
  listed := by
    intro d ms hd hlist m
    simp only [client, listMembers] at hlist
    split at hlist
    · next e hfind =>
      obtain rfl := Except.ok.inj hlist
      exact hd.mem_iff_member? hfind m
    · simp at hlist
  member?_list _ := rfl
  member?_failed := by
    intro c d f _ hfailed
    funext id
    simp only [member?, find?, groups_client_of_error hfailed]
  member?_updated _ h := member?_updated h
  member?_inserted hd h := member?_inserted hd h

end GroupKeeper.Directory
