import Mathlib.Data.List.Nodup
import GroupKeeper.Proofs.Directory.Lookup

/-! What holds of every directory in memory. Each group is kept under its own address in small
letters, and no id is given out twice. Every operation keeps this, whether it succeeds or fails. -/

namespace GroupKeeper

/-- The ids of a group and of its members. -/
def DirectoryEntry.ids (e : DirectoryEntry) : List String :=
  e.group.id :: e.members.map (·.id)

namespace Directory

/-! ## Ids -/

theorem toString_injective {m n : Nat} (h : toString m = toString n) : m = n := by
  have hdigits : Nat.toDigits 10 m = Nat.toDigits 10 n := by
    simpa [Nat.toString_eq_repr, Nat.toList_repr] using congrArg String.toList h
  have hvalue := congrArg (Nat.ofDigitChars 10 · 0) hdigits
  simpa [Nat.ofDigitChars_ten_toDigits] using hvalue

/-- An id is the decimal text of a number that was given out up to `n`. -/
def Issued (n : Nat) (id : String) : Prop :=
  ∃ m, 0 < m ∧ m ≤ n ∧ id = toString m

theorem Issued.mono {n n' : Nat} {id : String} (h : Issued n id) (hle : n ≤ n') :
    Issued n' id := by
  obtain ⟨m, hpos, hm, rfl⟩ := h
  exact ⟨m, hpos, Nat.le_trans hm hle, rfl⟩

theorem not_issued_succ (n : Nat) : ¬ Issued n (toString (n + 1)) := by
  rintro ⟨m, -, hm, heq⟩
  have := toString_injective heq
  omega

theorem issued_succ (n : Nat) : Issued (n + 1) (toString (n + 1)) :=
  ⟨n + 1, by omega, by omega, rfl⟩

/-! ## Well-formed directories -/

/-- Groups are kept under their own addresses, and all ids are different and were given out. -/
structure WellFormed (d : Directory) : Prop where
  keyed : ∀ k e, d.groups.get? k = some e → k = key e.group.email
  issued : ∀ k e, d.groups.get? k = some e → ∀ id ∈ e.ids, Issued d.lastId id
  nodup : ∀ k e, d.groups.get? k = some e → e.ids.Nodup
  disjoint : ∀ k l e f, d.groups.get? k = some e → d.groups.get? l = some f → k ≠ l →
    ∀ id ∈ e.ids, id ∉ f.ids

theorem wellFormed_empty : WellFormed empty := by
  constructor <;> simp [empty]

section WellFormed

variable {d d' : Directory} {a : String} {e : DirectoryEntry}

theorem WellFormed.of_groups_eq (h : WellFormed d) (hgroups : d'.groups = d.groups)
    (hlast : d.lastId ≤ d'.lastId) : WellFormed d' := by
  constructor
  · rw [hgroups]
    exact h.keyed
  · rw [hgroups]
    exact fun k e hget id hid => (h.issued k e hget id hid).mono hlast
  · rw [hgroups]
    exact h.nodup
  · rw [hgroups]
    exact h.disjoint

theorem WellFormed.of_erase (h : WellFormed d) {k : String} (hgroups : d'.groups = d.groups.erase k)
    (hlast : d.lastId ≤ d'.lastId) : WellFormed d' := by
  have hget : ∀ l e, d'.groups.get? l = some e → d.groups.get? l = some e := by
    intro l e
    rw [hgroups, Dictionary.get?_erase]
    split <;> simp
  constructor
  · exact fun l e hl => h.keyed l e (hget l e hl)
  · exact fun l e hl id hid => (h.issued l e (hget l e hl) id hid).mono hlast
  · exact fun l e hl => h.nodup l e (hget l e hl)
  · exact fun l l' e f hl hl' => h.disjoint l l' e f (hget l e hl) (hget l' f hl')

/-- A group can be put where its address belongs, if its ids stood there before or are new. -/
theorem WellFormed.of_put (h : WellFormed d) (hgroups : d'.groups = d.groups.insert (key a) e)
    (hlast : d.lastId ≤ d'.lastId) (hkey : key e.group.email = key a) (hnodup : e.ids.Nodup)
    (hids : ∀ id ∈ e.ids, (∃ f, d.find? a = some f ∧ id ∈ f.ids) ∨
      (Issued d'.lastId id ∧ ¬ Issued d.lastId id)) : WellFormed d' := by
  have hget : ∀ k f, d'.groups.get? k = some f →
      (k = key a ∧ f = e) ∨ (k ≠ key a ∧ d.groups.get? k = some f) := by
    intro k f
    rw [hgroups, Dictionary.get?_insert]
    split
    · next heq => simpa [heq] using Eq.symm
    · next hne => simp [hne]
  -- An id of the new group stands in no other group, whether it is old or new.
  have hother : ∀ k f, k ≠ key a → d.groups.get? k = some f → ∀ id ∈ e.ids, id ∉ f.ids := by
    intro k f hne hk id hid hmem
    rcases hids id hid with ⟨f', hf', hmem'⟩ | ⟨-, hnew⟩
    · exact h.disjoint k (key a) f f' hk hf' hne id hmem hmem'
    · exact hnew (h.issued k f hk id hmem)
  constructor
  · intro k f hk
    rcases hget k f hk with ⟨rfl, rfl⟩ | ⟨-, hk⟩
    · exact hkey.symm
    · exact h.keyed k f hk
  · intro k f hk id hid
    rcases hget k f hk with ⟨rfl, rfl⟩ | ⟨-, hk⟩
    · rcases hids id hid with ⟨f', hf', hmem'⟩ | ⟨hnew, -⟩
      · exact (h.issued _ f' hf' id hmem').mono hlast
      · exact hnew
    · exact (h.issued k f hk id hid).mono hlast
  · intro k f hk
    rcases hget k f hk with ⟨rfl, rfl⟩ | ⟨-, hk⟩
    · exact hnodup
    · exact h.nodup k f hk
  · intro k l f f' hk hl hne id hid hid'
    rcases hget k f hk with ⟨rfl, rfl⟩ | ⟨hka, hk⟩
    · rcases hget l f' hl with ⟨rfl, rfl⟩ | ⟨hla, hl⟩
      · exact hne rfl
      · exact hother l f' hla hl id hid hid'
    · rcases hget l f' hl with ⟨rfl, rfl⟩ | ⟨hla, hl⟩
      · exact hother k f hka hk id hid' hid
      · exact h.disjoint k l f f' hk hl hne id hid hid'

/-- A change within a group that gives no new ids. -/
theorem WellFormed.of_put_sublist {f : DirectoryEntry} (h : WellFormed d)
    (hgroups : d'.groups = d.groups.insert (key a) e) (hlast : d.lastId ≤ d'.lastId)
    (hfind : d.find? a = some f) (hemail : e.group.email = f.group.email)
    (hids : e.ids.Sublist f.ids) : WellFormed d' := by
  refine h.of_put hgroups hlast ?_ ((h.nodup _ f hfind).sublist hids) ?_
  · rw [hemail]
    exact (h.keyed _ f hfind).symm
  · exact fun id hid => .inl ⟨f, hfind, hids.subset hid⟩

/-- A member with a new id. -/
theorem WellFormed.of_put_member {f : DirectoryEntry} {m : Member} (h : WellFormed d)
    (hgroups : d'.groups = d.groups.insert (key a) { f with members := f.members ++ [m] })
    (hlast : d'.lastId = d.lastId + 1) (hfind : d.find? a = some f)
    (hid : m.id = toString (d.lastId + 1)) : WellFormed d' := by
  have hids : { f with members := f.members ++ [m] }.ids = f.ids ++ [toString (d.lastId + 1)] := by
    simp [DirectoryEntry.ids, hid]
  have hfresh : toString (d.lastId + 1) ∉ f.ids :=
    fun hmem => not_issued_succ d.lastId (h.issued _ f hfind _ hmem)
  refine h.of_put hgroups (by omega) (h.keyed _ f hfind).symm ?_ ?_
  · rw [hids]
    refine List.nodup_append.mpr ⟨h.nodup _ f hfind, List.nodup_singleton _, ?_⟩
    rintro id hid' _ hnew rfl
    exact hfresh (List.mem_singleton.mp hnew ▸ hid')
  · rw [hids]
    intro id hmem
    rcases List.mem_append.mp hmem with hmem | hmem
    · exact .inl ⟨f, hfind, hmem⟩
    · obtain rfl := List.mem_singleton.mp hmem
      exact .inr ⟨hlast ▸ issued_succ d.lastId, not_issued_succ d.lastId⟩

/-- A group with a new id and without members. -/
theorem WellFormed.of_put_group (h : WellFormed d)
    (hgroups : d'.groups = d.groups.insert (key e.group.email) e)
    (hlast : d'.lastId = d.lastId + 1) (hid : e.group.id = toString (d.lastId + 1))
    (hmembers : e.members = []) : WellFormed d' := by
  have hids : e.ids = [toString (d.lastId + 1)] := by simp [DirectoryEntry.ids, hid, hmembers]
  refine h.of_put hgroups (by omega) rfl (by simp [hids]) ?_
  rw [hids]
  intro id hmem
  obtain rfl := List.mem_singleton.mp hmem
  exact .inr ⟨hlast ▸ issued_succ d.lastId, not_issued_succ d.lastId⟩

theorem WellFormed.nodup_members (h : WellFormed d) (hfind : d.find? a = some e) :
    (e.members.map (·.id)).Nodup :=
  (List.nodup_cons.mp (h.nodup _ e hfind)).2

end WellFormed

/-! ## Operations -/

theorem map_id_replaceFirst (p : Member → Bool) (role : Role) (ms : List Member) :
    (replaceFirst p (fun m => { m with role }) ms).map (·.id) = ms.map (·.id) := by
  induction ms with
  | nil => rfl
  | cons m ms ih =>
      simp only [replaceFirst]
      split
      · rfl
      · simp [ih]

variable {d : Directory}

theorem find?_of_findMember {a id : String} {e : DirectoryEntry} {m : Member}
    (h : d.findMember a id = .ok (e, m)) : d.find? a = some e := by
  simp only [findMember] at h
  split at h
  · simp at h
  · next hfind =>
    split at h
    · obtain ⟨rfl, -⟩ := Prod.mk.inj (Except.ok.inj h)
      exact hfind
    · simp at h

/-- Every call keeps a directory well-formed, whether it succeeds or fails. -/
theorem WellFormed.client (h : WellFormed d) (c : Call) : WellFormed (client c d).2 := by
  cases c with
  | getGroup k | listGroups | listMembers k | getSettings k => exact h
  | insertGroup g =>
      simp only [Directory.client, insertGroup]
      split
      · exact h
      · exact h.of_put_group (e := ⟨{ g with id := d.nextId.1 }, [], .unset⟩) rfl rfl rfl rfl
  | updateGroup k g =>
      simp only [Directory.client, updateGroup]
      split
      · next e hfind => exact h.of_put_sublist rfl (Nat.le_refl _) hfind rfl (.refl _)
      · exact h.of_groups_eq rfl (Nat.le_refl _)
  | deleteGroup k =>
      simp only [Directory.client, deleteGroup]
      split
      · exact h.of_erase rfl (Nat.le_refl _)
      · exact h.of_groups_eq rfl (Nat.le_refl _)
  | insertMember k m =>
      simp only [Directory.client, insertMember]
      split
      · exact h
      · split
        · exact h.of_groups_eq rfl (Nat.le_succ _)
        · next e hfind =>
          split
          · exact h.of_groups_eq rfl (Nat.le_succ _)
          · exact h.of_put_member rfl rfl hfind rfl
  | updateMember k id m =>
      simp only [Directory.client, updateMember]
      split
      · exact h
      · split
        · exact h.of_groups_eq rfl (Nat.le_refl _)
        · next e current hmember =>
          refine h.of_put_sublist rfl (Nat.le_refl _) (find?_of_findMember hmember) rfl ?_
          simp [DirectoryEntry.ids, map_id_replaceFirst]
  | deleteMember k id =>
      simp only [Directory.client, deleteMember]
      split
      · exact h
      · next e current hmember =>
        split
        · exact h
        · refine h.of_put_sublist rfl (Nat.le_refl _) (find?_of_findMember hmember) rfl ?_
          exact (List.filter_sublist.map _).cons_cons _
  | patchSettings k s =>
      simp only [Directory.client, patchSettings]
      split
      · next e hfind => exact h.of_put_sublist rfl (Nat.le_refl _) hfind rfl (.refl _)
      · exact h.of_groups_eq rfl (Nat.le_refl _)

/-- The directories that can be built, from the empty one, by any sequence of operations. -/
inductive Reachable : Directory → Prop
  | empty : Reachable empty
  | withGroup {d : Directory} (email name description : String) :
      Reachable d → Reachable (d.withGroup email name description)
  | withMember {d : Directory} (a email : String) (role : Role) :
      Reachable d → Reachable (d.withMember a email role).2
  | withSettings {d : Directory} (a : String) (settings : Settings) :
      Reachable d → Reachable (d.withSettings a settings).2
  | withFailingMember {d : Directory} (email : String) :
      Reachable d → Reachable (d.withFailingMember email)
  | withFailingGroup {d : Directory} (a : String) :
      Reachable d → Reachable (d.withFailingGroup a)
  | withFailingList {d : Directory} : Reachable d → Reachable d.withFailingList
  | withLookupDelay {d : Directory} (delay : Nat) :
      Reachable d → Reachable (d.withLookupDelay delay)
  | takeCalls {d : Directory} : Reachable d → Reachable d.takeCalls.2
  | call {d : Directory} (c : Call) : Reachable d → Reachable (client c d).2

theorem Reachable.wellFormed (h : Reachable d) : WellFormed d := by
  induction h with
  | empty => exact wellFormed_empty
  | @withGroup d email name description _ ih =>
      exact ih.of_put_group (e := ⟨⟨d.nextId.1, email, name, description⟩, [], .unset⟩)
        rfl rfl rfl rfl
  | withMember a email role _ ih =>
      simp only [Directory.withMember]
      split
      · next e hfind => exact ih.of_put_member rfl rfl hfind rfl
      · exact ih.of_groups_eq rfl (Nat.le_succ _)
  | withSettings a settings _ ih =>
      simp only [Directory.withSettings]
      split
      · next e hfind => exact ih.of_put_sublist rfl (Nat.le_refl _) hfind rfl (.refl _)
      · exact ih
  | withFailingMember | withFailingGroup | withFailingList | withLookupDelay | takeCalls =>
      next ih => exact ih.of_groups_eq rfl (Nat.le_refl _)
  | call c _ ih => exact ih.client c

/-- A program leaves a directory that can be built, if it started in one. -/
theorem Reachable.run {α : Type} (h : Reachable d) (p : Program α) :
    Reachable (p.run Directory.client d).state :=
  Program.run_invariant (fun c _ hd => .call c hd) p h

end Directory

end GroupKeeper
