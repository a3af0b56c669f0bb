import Mathlib.Data.List.Nodup
import GroupKeeper.Proofs.Directory.Invariant
import GroupKeeper.Proofs.Lists

/-! What a changing call does to the group that it is about, in a directory that was not told to
fail. A triple `Ensures a P p v Q` says of a program that it gives the value `v`, and that it takes
what stands under the address `a` from `P` to `Q`. -/

namespace GroupKeeper

namespace Directory

variable {d : Directory} {a : String} {e : DirectoryEntry}

/-- A well-formed directory that was not told to fail. -/
structure Healthy (d : Directory) : Prop where
  wellFormed : WellFormed d
  faultless : Faultless d

theorem Reachable.healthy (h : Reachable d) (hfaultless : Faultless d) : Healthy d :=
  ⟨h.wellFormed, hfaultless⟩

theorem Healthy.client (h : Healthy d) (c : Call) : Healthy (client c d).2 :=
  ⟨h.wellFormed.client c, h.faultless.client c⟩

theorem Healthy.run {α : Type} (h : Healthy d) (p : Program α) :
    Healthy (p.run Directory.client d).state :=
  Program.run_invariant (fun c _ hd => hd.client c) p h

/-! ## Members -/

theorem replaceFirst_append_cons {α : Type} {p : α → Bool} {f : α → α} {front : List α}
    (hfront : ∀ y ∈ front, p y = false) {x : α} (hx : p x = true) (back : List α) :
    replaceFirst p f (front ++ x :: back) = front ++ f x :: back := by
  induction front with
  | nil => simp [replaceFirst, hx]
  | cons y front ih =>
      obtain ⟨hy, hfront⟩ := List.forall_mem_cons.mp hfront
      simp [replaceFirst, hy, ih hfront]

theorem findMember_of_mem (h : WellFormed d) (hfind : d.find? a = some e) {m : Member}
    (hm : m ∈ e.members) : d.findMember a m.id = .ok (e, m) := by
  simp [findMember, hfind, find?_of_nodup_map (h.nodup_members hfind) hm]

/-- A member gets another role in place. -/
theorem client_updateMember (h : WellFormed d) {front back : List Member} {m : Member}
    (hfails : d.failsMember m.email = false)
    (hfind : d.find? a = some { e with members := front ++ m :: back }) (role : Role) :
    (∃ u, (client (.updateMember a m.id { m with role }) d).1 = .ok u) ∧
      (client (.updateMember a m.id { m with role }) d).2.find? a =
        some { e with members := front ++ { m with role } :: back } := by
  have hmember := findMember_of_mem h hfind (m := m) (by simp)
  have hids := h.nodup_members hfind
  have hfront : ∀ x ∈ front, (x.id == m.id) = false := by
    intro x hx
    simp only [List.map_append, List.map_cons, List.nodup_append, List.mem_map] at hids
    exact beq_false_of_ne (hids.2.2 x.id ⟨x, hx, rfl⟩ m.id (by simp))
  have hrecorded : (d.record (.updateMember a m.id { m with role })).findMember a m.id =
      d.findMember a m.id := rfl
  simp only [client, updateMember, hfails, hrecorded, hmember]
  refine ⟨⟨_, rfl⟩, ?_⟩
  simp [replaceFirst_append_cons hfront]

/-- A member whose address is not there yet is added at the end, with a new id. -/
theorem client_insertMember {m : Member} (hfails : d.failsMember m.email = false)
    (hfind : d.find? a = some e) (hfresh : ∀ x ∈ e.members, x.email ≠ m.email) :
    (∃ u, (client (.insertMember a m) d).1 = .ok u) ∧
      ∃ id, (client (.insertMember a m) d).2.find? a =
        some { e with members := e.members ++ [{ m with id }] } := by
  have hnone : e.members.any (·.email == m.email) = false := by
    simpa using hfresh
  have hget : (d.record (.insertMember a m)).nextId.2.find? a = some e := hfind
  simp only [client, insertMember, hfails, hget, hnone, Bool.false_eq_true, if_false]
  exact ⟨⟨_, rfl⟩, _, find?_put_self ..⟩

/-- A member is removed by id. -/
theorem client_deleteMember (h : WellFormed d) (hfind : d.find? a = some e) {m : Member}
    (hm : m ∈ e.members) (hfails : d.failsMember m.email = false) :
    (client (.deleteMember a m.id) d).1 = .ok () ∧
      (client (.deleteMember a m.id) d).2.find? a =
        some { e with members := e.members.filter (·.id != m.id) } := by
  simp only [client, deleteMember, findMember_of_mem h hfind hm, hfails]
  exact ⟨rfl, by simp⟩

/-! A change to the membership of an address that was made to fail changes nothing. -/

theorem client_updateMember_of_fails (id : String) {m : Member}
    (hfails : d.failsMember m.email = true) :
    client (.updateMember a id m) d = (.error (injected m.email), d) := by
  simp only [client, updateMember, hfails, if_true]

theorem client_insertMember_of_fails {m : Member} (hfails : d.failsMember m.email = true) :
    client (.insertMember a m) d = (.error (injected m.email), d) := by
  simp only [client, insertMember, hfails, if_true]

theorem client_deleteMember_of_fails (h : WellFormed d) (hfind : d.find? a = some e) {m : Member}
    (hm : m ∈ e.members) (hfails : d.failsMember m.email = true) :
    client (.deleteMember a m.id) d = (.error (injected m.email), d) := by
  simp only [client, deleteMember, findMember_of_mem h hfind hm, hfails, if_true]

/-! ## Groups -/

theorem client_insertGroup {g : Group} (hfind : d.find? g.email = none) :
    (∃ u, (client (.insertGroup g) d).1 = .ok u) ∧
      ∃ id, (client (.insertGroup g) d).2.find? g.email = some ⟨{ g with id }, [], .unset⟩ := by
  simp only [client, insertGroup, hfind]
  exact ⟨⟨_, rfl⟩, _, find?_put_self ..⟩

/-- The name and the description of a group after an update. -/
def updated (g current : Group) : Group :=
  { current with
    name := if g.name.isEmpty then current.name else g.name
    description := if g.description.isEmpty then current.description else g.description }

theorem client_updateGroup (hfind : d.find? a = some e) (g : Group) :
    (∃ u, (client (.updateGroup a g) d).1 = .ok u) ∧
      (client (.updateGroup a g) d).2.find? a = some { e with group := updated g e.group } := by
  have hget : (d.record (.updateGroup a g)).find? a = some e := hfind
  simp only [client, updateGroup, hget]
  exact ⟨⟨_, rfl⟩, find?_put_self ..⟩

theorem client_patchSettings (hfind : d.find? a = some e) (settings : Settings) :
    (∃ u, (client (.patchSettings a settings) d).1 = .ok u) ∧
      (client (.patchSettings a settings) d).2.find? a = some { e with settings } := by
  have hget : (d.record (.patchSettings a settings)).find? a = some e := hfind
  simp only [client, patchSettings, hget]
  exact ⟨⟨_, rfl⟩, find?_put_self ..⟩

theorem client_updateGroup_of_missing (hfind : d.find? a = none) (g : Group) :
    (client (.updateGroup a g) d).1 = .error (groupNotFound a) := by
  have hget : (d.record (.updateGroup a g)).find? a = none := hfind
  simp only [client, updateGroup, hget]

theorem client_patchSettings_of_missing (hfind : d.find? a = none) (settings : Settings) :
    (client (.patchSettings a settings) d).1 = .error (groupNotFound a) := by
  have hget : (d.record (.patchSettings a settings)).find? a = none := hfind
  simp only [client, patchSettings, hget]

theorem client_deleteGroup (hfind : d.find? a = some e) :
    (client (.deleteGroup a) d).1 = .ok () ∧
      ∀ k, (client (.deleteGroup a) d).2.groups.get? k =
        if k = key a then none else d.groups.get? k := by
  have hget : (d.record (.deleteGroup a)).find? a = some e := hfind
  simp only [client, deleteGroup, hget]
  exact ⟨trivial, Dictionary.get?_erase _ _⟩

/-! ## Triples -/

/-- How a run deals with a directory in memory. -/
def mode (confirm : Bool) : Mode :=
  ⟨confirm, isMissing⟩

@[simp] theorem mode_confirm (confirm : Bool) : (mode confirm).confirm = confirm :=
  rfl

@[simp] theorem mode_isMissing (confirm : Bool) : (mode confirm).isMissing = isMissing :=
  rfl

/-- Where the group under an address satisfies `P`, the program gives the value `v` and leaves a
group that satisfies `Q`. -/
def Ensures {α : Type} (a : String) (P : Option DirectoryEntry → Prop) (p : Program α) (v : α)
    (Q : Option DirectoryEntry → Prop) : Prop :=
  ∀ d, Healthy d → P (d.find? a) →
    (p.run client d).value = v ∧ Q ((p.run client d).state.find? a)

end Directory

end GroupKeeper
