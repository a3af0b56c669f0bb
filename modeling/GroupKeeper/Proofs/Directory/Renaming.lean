import Mathlib.Data.List.Find
import Mathlib.Data.Set.Function
import Mathlib.Logic.Relation
import GroupKeeper.Proofs.Directory.Membership

/-! Two directories that hold the same under an address, but for the ids. A renaming takes the ids
of the one to those of the other; it leaves alone what was given out before the two parted, and it
is extended whenever both give out an id. Calls about other groups do not disturb it. -/

namespace GroupKeeper

open Relation (ReflTransGen)

/-! ## Renamed ids -/

def Group.rename (ρ : String → String) (g : Group) : Group :=
  { g with id := ρ g.id }

def Member.rename (ρ : String → String) (m : Member) : Member :=
  { m with id := ρ m.id }

def DirectoryEntry.rename (ρ : String → String) (e : DirectoryEntry) : DirectoryEntry :=
  ⟨e.group.rename ρ, e.members.map (Member.rename ρ), e.settings⟩

section Rename

variable {ρ κ : String → String} {e : DirectoryEntry}

@[simp] theorem Member.email_rename (m : Member) : (m.rename ρ).email = m.email :=
  rfl

@[simp] theorem Member.role_rename (m : Member) : (m.rename ρ).role = m.role :=
  rfl

theorem DirectoryEntry.rename_id (e : DirectoryEntry) : e.rename id = e := by
  have hmembers : e.members.map (Member.rename id) = e.members := List.map_id' _
  rw [rename, hmembers]
  rfl

theorem DirectoryEntry.rename_rename (e : DirectoryEntry) :
    (e.rename ρ).rename κ = e.rename (κ ∘ ρ) := by
  simp [rename, Group.rename, Member.rename]

theorem map_rename_congr {ms : List Member} (h : ∀ m ∈ ms, ρ m.id = κ m.id) :
    ms.map (Member.rename ρ) = ms.map (Member.rename κ) := by
  refine List.map_congr_left fun m hm => ?_
  rw [Member.rename, Member.rename, h m hm]

theorem DirectoryEntry.rename_congr (h : ∀ id ∈ e.ids, ρ id = κ id) :
    e.rename ρ = e.rename κ := by
  obtain ⟨hgroup, hmembers⟩ := List.forall_mem_cons.mp h
  rw [rename, rename, Group.rename, Group.rename, hgroup,
    map_rename_congr fun m hm => hmembers m.id (List.mem_map.mpr ⟨m, hm, rfl⟩)]

end Rename

/-- Whether a call can give out an id. -/
def Call.givesId : Call → Bool
  | .insertGroup _ | .insertMember .. => true
  | _ => false

namespace Directory

theorem replaceFirst_map {α : Type} {p q : α → Bool} {f r : α → α} {xs : List α}
    (hp : ∀ x ∈ xs, p (r x) = q x) (hf : ∀ x, f (r x) = r (f x)) :
    replaceFirst p f (xs.map r) = (replaceFirst q f xs).map r := by
  induction xs with
  | nil => rfl
  | cons x xs ih =>
      obtain ⟨hx, hrest⟩ := List.forall_mem_cons.mp hp
      rw [List.map_cons, replaceFirst, replaceFirst, hx]
      split
      · rw [List.map_cons, hf]
      · rw [List.map_cons, ih hrest]

/-- A renaming of the ids up to `m` into the ids up to `k` that leaves those up to `n` alone. -/
structure Renames (n m k : Nat) (ρ : String → String) : Prop where
  since : n ≤ m
  old : ∀ i, Issued n i → ρ i = i
  issued : ∀ i, Issued m i → Issued k (ρ i)
  injective : Set.InjOn ρ {i | Issued m i}

/-- A renaming together with the ids that are given out next. -/
def extended (ρ : String → String) (m k : Nat) : String → String :=
  Function.update ρ (toString (m + 1)) (toString (k + 1))

section Renames

variable {n m k : Nat} {ρ : String → String} {i : String}

theorem Renames.refl (n : Nat) : Renames n n n id :=
  ⟨Nat.le_refl n, fun _ _ => rfl, fun _ h => h, Set.injOn_id _⟩

theorem Renames.mono {k' : Nat} (h : Renames n m k ρ) (hle : k ≤ k') : Renames n m k' ρ :=
  ⟨h.since, h.old, fun i hi => (h.issued i hi).mono hle, h.injective⟩

theorem extended_new (ρ : String → String) (m k : Nat) :
    extended ρ m k (toString (m + 1)) = toString (k + 1) :=
  Function.update_self ..

theorem extended_of_issued (hi : Issued m i) : extended ρ m k i = ρ i := by
  refine Function.update_of_ne ?_ _ _
  rintro rfl
  exact not_issued_succ m hi

theorem issued_succ_iff : Issued (m + 1) i ↔ i = toString (m + 1) ∨ Issued m i := by
  constructor
  · rintro ⟨l, hpos, hl, rfl⟩
    rcases Nat.le_succ_iff.mp hl with hle | rfl
    · exact .inr ⟨l, hpos, hle, rfl⟩
    · exact .inl rfl
  · rintro (rfl | hi)
    · exact issued_succ m
    · exact hi.mono (Nat.le_succ m)

theorem Renames.extended (h : Renames n m k ρ) : Renames n (m + 1) (k + 1) (extended ρ m k) := by
  have hfresh : ∀ i, Issued m i → ρ i ≠ toString (k + 1) := by
    intro i hi heq
    exact not_issued_succ k (heq ▸ h.issued i hi)
  refine ⟨Nat.le_succ_of_le h.since, fun i hi => ?_, fun i hi => ?_, fun i hi j hj heq => ?_⟩
  · rw [extended_of_issued (hi.mono h.since), h.old i hi]
  · rcases issued_succ_iff.mp hi with rfl | hi
    · rw [extended_new]
      exact issued_succ k
    · rw [extended_of_issued hi]
      exact (h.issued i hi).mono (Nat.le_succ k)
  · rcases issued_succ_iff.mp hi with rfl | hi <;> rcases issued_succ_iff.mp hj with rfl | hj
    · rfl
    · rw [extended_new, extended_of_issued hj] at heq
      exact absurd heq.symm (hfresh j hj)
    · rw [extended_new, extended_of_issued hi] at heq
      exact absurd heq (hfresh i hi)
    · rw [extended_of_issued hi, extended_of_issued hj] at heq
      exact h.injective hi hj heq

/-- What was given out since stays apart from what was given out before. -/
theorem Renames.not_issued (h : Renames n m k ρ) (hi : Issued m i) (hnew : ¬ Issued n i) :
    ¬ Issued n (ρ i) := by
  intro hold
  have hfixed : ρ (ρ i) = ρ i := h.old _ hold
  have hsame : ρ i = i := h.injective (hold.mono h.since) hi hfixed
  exact hnew (hsame ▸ hold)

end Renames

/-! ## Mirrored groups -/

/-- What one directory holds under an address is what the other one holds there, renamed. -/
structure Mirrors (n : Nat) (ρ : String → String) (a : String) (d t : Directory) : Prop where
  entry : t.find? a = (d.find? a).map (.rename ρ)
  faults : SameFaults d t
  wellFormed : WellFormed d
  renames : Renames n d.lastId t.lastId ρ

/-- A call about another group. -/
def Beside (a : String) (c : Call) : Prop :=
  ∃ b, c.target? = some b ∧ key b ≠ key a

/-- A directory after a call about another group. -/
def Elsewhere (a : String) (d t : Directory) : Prop :=
  ∃ c, Beside a c ∧ t = (client c d).2

section Mirrors

variable {n : Nat} {ρ : String → String} {a : String} {d t u : Directory} {e : DirectoryEntry}

theorem Mirrors.refl (h : WellFormed d) (a : String) : Mirrors d.lastId id a d d := by
  refine ⟨?_, .refl d, h, .refl _⟩
  cases d.find? a with
  | none => rfl
  | some e => rw [Option.map_some, e.rename_id]

theorem lastId_client {c : Call} (hc : c.givesId = false) (d : Directory) :
    (client c d).2.lastId = d.lastId := by
  cases c <;> simp only [Call.givesId, Bool.true_eq_false] at hc <;>
    simp only [client, updateGroup, deleteGroup, updateMember, deleteMember, patchSettings] <;>
    repeat' split
  all_goals rfl

theorem Mirrors.elsewhere (h : Mirrors n ρ a d t) (hstep : ReflTransGen (Elsewhere a) t u) :
    Mirrors n ρ a d u := by
  induction hstep with
  | refl => exact h
  | tail _ hstep ih =>
      obtain ⟨c, ⟨b, htarget, hne⟩, rfl⟩ := hstep
      refine ⟨?_, ih.faults.trans (sameFaults_client c _), ih.wellFormed,
        ih.renames.mono (lastId_le_client c _)⟩
      rw [find?, get?_client_of_ne htarget hne.symm]
      exact ih.entry

/-- A call and its counterpart that give out no id. -/
theorem Mirrors.client (h : Mirrors n ρ a d t) {c c' : Call} (hc : c.givesId = false)
    (hentry : (Directory.client c' t).2.find? a =
      ((Directory.client c d).2.find? a).map (.rename ρ)) :
    Mirrors n ρ a (Directory.client c d).2 (Directory.client c' t).2 := by
  refine ⟨hentry, ?_, h.wellFormed.client c, ?_⟩
  · exact (sameFaults_client c d).symm.trans (h.faults.trans (sameFaults_client c' t))
  · rw [lastId_client hc]
    exact h.renames.mono (lastId_le_client c' t)

/-- A call and its counterpart that give out an id each. -/
theorem Mirrors.client_new (h : Mirrors n ρ a d t) {c c' : Call}
    (hlast : (Directory.client c d).2.lastId = d.lastId + 1)
    (hlast' : (Directory.client c' t).2.lastId = t.lastId + 1)
    (hentry : (Directory.client c' t).2.find? a =
      ((Directory.client c d).2.find? a).map (.rename (extended ρ d.lastId t.lastId))) :
    Mirrors n (extended ρ d.lastId t.lastId) a (Directory.client c d).2
      (Directory.client c' t).2 := by
  refine ⟨hentry, ?_, h.wellFormed.client c, ?_⟩
  · exact (sameFaults_client c d).symm.trans (h.faults.trans (sameFaults_client c' t))
  · rw [hlast, hlast']
    exact h.renames.extended

theorem Mirrors.find?_none (h : Mirrors n ρ a d t) (hfind : d.find? a = none) :
    t.find? a = none := by
  rw [h.entry, hfind, Option.map_none]

theorem Mirrors.find?_some (h : Mirrors n ρ a d t) (hfind : d.find? a = some e) :
    t.find? a = some (e.rename ρ) := by
  rw [h.entry, hfind, Option.map_some]

theorem Mirrors.rename_extended (h : Mirrors n ρ a d t) (hfind : d.find? a = some e) :
    e.rename (extended ρ d.lastId t.lastId) = e.rename ρ :=
  DirectoryEntry.rename_congr fun i hi =>
    extended_of_issued (h.wellFormed.issued _ e hfind i hi)

end Mirrors

/-! ## Calls about a group -/

/-- Two answers of which both are the same failure, or none is a failure. -/
inductive SameReply {α β : Type} : Except Failure α → Except Failure β → Prop
  | ok (u : α) (v : β) : SameReply (.ok u) (.ok v)
  | error (f : Failure) : SameReply (.error f) (.error f)

/-- A call and its counterpart keep a group mirrored, and both fail or neither does. -/
def Answered (n : Nat) (ρ : String → String) (a : String) (d t : Directory) (c c' : Call) : Prop :=
  Mirrors n ρ a (client c d).2 (client c' t).2 ∧ SameReply (client c d).1 (client c' t).1

section Calls

variable {n : Nat} {ρ : String → String} {a i : String} {d t : Directory} {e : DirectoryEntry}

theorem Mirrors.getGroup (h : Mirrors n ρ a d t) :
    (Directory.client (.getGroup a) t).1 =
      (Directory.client (.getGroup a) d).1.map (Group.rename ρ) := by
  simp only [Directory.client, Directory.getGroup, h.faults.failsGroup, h.entry]
  split
  · rfl
  · cases d.find? a <;> rfl

theorem Mirrors.getSettings (h : Mirrors n ρ a d t) :
    (Directory.client (.getSettings a) t).1 = (Directory.client (.getSettings a) d).1 := by
  simp only [Directory.client, Directory.getSettings, h.faults.failsGroup, h.entry]
  cases d.find? a <;> rfl

theorem Mirrors.listMembers (h : Mirrors n ρ a d t) :
    (Directory.client (.listMembers a) t).1 =
      (Directory.client (.listMembers a) d).1.map (List.map (Member.rename ρ)) := by
  simp only [Directory.client, Directory.listMembers, h.entry]
  cases d.find? a <;> rfl

/-- A call that fails alike on both sides. -/
theorem Mirrors.of_error (h : Mirrors n ρ a d t) {c c' : Call} (hc : c.givesId = false)
    {f : Failure} (hd : (Directory.client c d).1 = .error f)
    (ht : (Directory.client c' t).1 = .error f) : Answered n ρ a d t c c' := by
  refine ⟨h.client hc ?_, by rw [hd, ht]; exact .error f⟩
  rw [find?, find?, groups_client_of_error hd, groups_client_of_error ht]
  exact h.entry

/-- A call that changes the group alike on both sides. -/
theorem Mirrors.of_ok (h : Mirrors n ρ a d t) {c c' : Call} (hc : c.givesId = false)
    (hd : (∃ u, (Directory.client c d).1 = .ok u) ∧ (Directory.client c d).2.find? a = some e)
    (ht : (∃ u, (Directory.client c' t).1 = .ok u) ∧
      (Directory.client c' t).2.find? a = some (e.rename ρ)) : Answered n ρ a d t c c' := by
  obtain ⟨⟨u, hu⟩, hd⟩ := hd
  obtain ⟨⟨u', hu'⟩, ht⟩ := ht
  refine ⟨h.client hc ?_, by rw [hu, hu']; exact .ok u u'⟩
  rw [hd, ht, Option.map_some]

theorem Mirrors.updateGroup (h : Mirrors n ρ a d t) (g : Group) :
    Answered n ρ a d t (.updateGroup a g) (.updateGroup a g) := by
  cases hfind : d.find? a with
  | none =>
      exact h.of_error rfl (client_updateGroup_of_missing hfind g)
        (client_updateGroup_of_missing (h.find?_none hfind) g)
  | some e =>
      exact h.of_ok rfl (client_updateGroup hfind g) (client_updateGroup (h.find?_some hfind) g)

theorem Mirrors.patchSettings (h : Mirrors n ρ a d t) (settings : Settings) :
    Answered n ρ a d t (.patchSettings a settings) (.patchSettings a settings) := by
  cases hfind : d.find? a with
  | none =>
      exact h.of_error rfl (client_patchSettings_of_missing hfind settings)
        (client_patchSettings_of_missing (h.find?_none hfind) settings)
  | some e =>
      exact h.of_ok rfl (client_patchSettings hfind settings)
        (client_patchSettings (h.find?_some hfind) settings)

theorem Mirrors.insertGroup {g : Group} (h : Mirrors n ρ g.email d t) :
    ∃ ρ', Answered n ρ' g.email d t (.insertGroup g) (.insertGroup g) := by
  cases hfind : d.find? g.email with
  | some e =>
      have hthere : ∀ s : Directory, (s.find? g.email).isSome = true →
          Directory.client (.insertGroup g) s =
            (.error (.ofMessage ("group " ++ Text.quote g.email ++ " already exists")), s) := by
        intro s hs
        simp only [Directory.client, Directory.insertGroup, hs, if_true]
      refine ⟨ρ, ?_⟩
      rw [Answered, hthere d (by simp [hfind]), hthere t (by simp [h.find?_some hfind])]
      exact ⟨h, .error _⟩
  | none =>
      have hfind' := h.find?_none hfind
      have hid : extended ρ d.lastId t.lastId (d.record (.insertGroup g)).nextId.1 =
          (t.record (.insertGroup g)).nextId.1 := extended_new ..
      refine ⟨extended ρ d.lastId t.lastId, h.client_new ?_ ?_ ?_, ?_⟩ <;>
        simp only [Directory.client, Directory.insertGroup, hfind, hfind', Option.isSome_none,
          Bool.false_eq_true, if_false]
      · rfl
      · rfl
      · rw [find?_put_self, find?_put_self]
        simp [DirectoryEntry.rename, Group.rename, hid]
      · exact .ok _ _

/-- Adding a member extends the renaming. -/
theorem Mirrors.insertMember (h : Mirrors n ρ a d t) (m : Member) :
    ∃ ρ', (∀ i, Issued d.lastId i → ρ' i = ρ i) ∧
      Answered n ρ' a d t (.insertMember a m) (.insertMember a m) := by
  cases hfails : d.failsMember m.email with
  | true =>
      refine ⟨ρ, fun _ _ => rfl, ?_⟩
      rw [Answered, client_insertMember_of_fails hfails,
        client_insertMember_of_fails ((h.faults.failsMember _).trans hfails)]
      exact ⟨h, .error _⟩
  | false =>
      have hfails' : t.failsMember m.email = false := (h.faults.failsMember _).trans hfails
      have hget : ∀ s : Directory, (s.record (.insertMember a m)).nextId.2.find? a = s.find? a :=
        fun _ => rfl
      -- From here on both sides give out an id, even where the insertion fails for another reason.
      refine ⟨extended ρ d.lastId t.lastId, fun i hi => extended_of_issued hi, ?_⟩
      cases hfind : d.find? a with
      | none =>
          have hfind' := h.find?_none hfind
          refine ⟨h.client_new ?_ ?_ ?_, ?_⟩ <;>
            simp only [Directory.client, Directory.insertMember, hfails, hfails', hget, hfind,
              hfind', Bool.false_eq_true, if_false]
          · rfl
          · rfl
          · rfl
          · exact .error _
      | some e =>
          have hfind' := h.find?_some hfind
          have hsame : (e.rename ρ).members.any (·.email == m.email) =
              e.members.any (·.email == m.email) := by
            rw [DirectoryEntry.rename, List.any_map]
            rfl
          cases hthere : e.members.any (·.email == m.email) with
          | true =>
              refine ⟨h.client_new ?_ ?_ ?_, ?_⟩ <;>
                simp only [Directory.client, Directory.insertMember, hfails, hfails', hget, hfind,
                  hfind', hsame, hthere, Bool.false_eq_true, if_false, if_true]
              · rfl
              · rfl
              · rw [Option.map_some, h.rename_extended hfind]
              · exact .error _
          | false =>
              have hid : extended ρ d.lastId t.lastId (d.record (.insertMember a m)).nextId.1 =
                  (t.record (.insertMember a m)).nextId.1 := extended_new ..
              refine ⟨h.client_new ?_ ?_ ?_, ?_⟩ <;>
                simp only [Directory.client, Directory.insertMember, hfails, hfails', hget, hfind,
                  hfind', hsame, hthere, Bool.false_eq_true, if_false]
              · rfl
              · rfl
              · rw [find?_put_self, find?_put_self, Option.map_some, ← h.rename_extended hfind]
                simp [DirectoryEntry.rename, Member.rename, hid]
              · exact .ok _ _

/-- Ids of a group are told apart alike on both sides. -/
theorem Mirrors.same_id (h : Mirrors n ρ a d t) (hfind : d.find? a = some e)
    (hi : Issued d.lastId i) {m : Member} (hm : m ∈ e.members) :
    ((m.rename ρ).id == ρ i) = (m.id == i) := by
  have hmid : Issued d.lastId m.id :=
    h.wellFormed.issued _ e hfind m.id (List.mem_cons_of_mem _ (List.mem_map.mpr ⟨m, hm, rfl⟩))
  rw [Bool.eq_iff_iff, beq_iff_eq, beq_iff_eq]
  exact h.renames.injective.eq_iff hmid hi

theorem WellFormed.issued_of_member? (h : WellFormed d) (hi : (d.member? a i).isSome) :
    Issued d.lastId i := by
  obtain ⟨m, hm⟩ := Option.isSome_iff_exists.mp hi
  obtain ⟨e, hfind, hm⟩ := Option.bind_eq_some_iff.mp hm
  obtain rfl : m.id = i := by simpa using List.find?_some hm
  exact h.issued _ e hfind m.id
    (List.mem_cons_of_mem _ (List.mem_map.mpr ⟨m, List.mem_of_find?_eq_some hm, rfl⟩))

theorem Mirrors.findMember (h : Mirrors n ρ a d t) (hi : (d.member? a i).isSome) :
    ∃ e m, d.find? a = some e ∧ d.findMember a i = .ok (e, m) ∧
      t.findMember a (ρ i) = .ok (e.rename ρ, m.rename ρ) := by
  have hissued := h.wellFormed.issued_of_member? hi
  obtain ⟨m, hm⟩ := Option.isSome_iff_exists.mp hi
  obtain ⟨e, hfind, hm⟩ := Option.bind_eq_some_iff.mp hm
  have hm' : (e.rename ρ).members.find? (·.id == ρ i) = some (m.rename ρ) := by
    have hsame : e.members.find? ((·.id == ρ i) ∘ Member.rename ρ) = e.members.find? (·.id == i) :=
      List.find?_congr fun x hx => h.same_id hfind hissued hx
    rw [DirectoryEntry.rename, List.find?_map, hsame, hm, Option.map_some]
  refine ⟨e, m, hfind, ?_, ?_⟩
  · simp only [Directory.findMember, hfind, hm]
  · simp only [Directory.findMember, h.find?_some hfind, hm']

theorem Mirrors.updateMember (h : Mirrors n ρ a d t) {m : Member}
    (hm : (d.member? a m.id).isSome) (role : Role) :
    Answered n ρ a d t (.updateMember a m.id { m with role })
      (.updateMember a (ρ m.id) { m.rename ρ with role }) := by
  cases hfails : d.failsMember m.email with
  | true =>
      have hfails' : t.failsMember m.email = true := (h.faults.failsMember _).trans hfails
      rw [Answered, client_updateMember_of_fails _ (m := { m with role }) hfails,
        client_updateMember_of_fails _ (m := { m.rename ρ with role }) hfails']
      exact ⟨h, .error _⟩
  | false =>
      have hfails' : t.failsMember m.email = false := (h.faults.failsMember _).trans hfails
      have hrecord : ∀ (s : Directory) (c : Call), (s.record c).findMember a = s.findMember a :=
        fun _ _ => rfl
      obtain ⟨e, x, hfind, hmember, hmember'⟩ := h.findMember hm
      have hissued := h.wellFormed.issued_of_member? hm
      have hreplaced :
          replaceFirst (·.id == ρ m.id) (fun x => { x with role }) (e.rename ρ).members =
            (replaceFirst (·.id == m.id) (fun x => { x with role }) e.members).map (.rename ρ) :=
        replaceFirst_map (fun x hx => h.same_id hfind hissued hx) fun _ => rfl
      refine h.of_ok (e := { e with
        members := replaceFirst (·.id == m.id) (fun x => { x with role }) e.members }) rfl ?_ ?_
      · simp only [Directory.client, Directory.updateMember, hfails, hrecord, hmember]
        exact ⟨⟨_, rfl⟩, find?_put_self ..⟩
      · simp only [Directory.client, Directory.updateMember, Member.email_rename, hfails', hrecord,
          hmember', hreplaced]
        exact ⟨⟨_, rfl⟩, find?_put_self ..⟩

theorem Mirrors.deleteMember (h : Mirrors n ρ a d t) {m : Member}
    (hm : (d.member? a m.id).isSome) :
    Answered n ρ a d t (.deleteMember a m.id) (.deleteMember a (ρ m.id)) := by
  obtain ⟨e, x, hfind, hmember, hmember'⟩ := h.findMember hm
  cases hfails : d.failsMember x.email with
  | true =>
      have hfails' : t.failsMember x.email = true := (h.faults.failsMember _).trans hfails
      refine h.of_error (f := injected x.email) rfl ?_ ?_
      · simp only [Directory.client, Directory.deleteMember, hmember, hfails, if_true]
      · simp only [Directory.client, Directory.deleteMember, hmember', Member.email_rename, hfails',
          if_true]
  | false =>
      have hfails' : t.failsMember x.email = false := (h.faults.failsMember _).trans hfails
      have hissued := h.wellFormed.issued_of_member? hm
      have hfiltered : (e.rename ρ).members.filter (·.id != ρ m.id) =
          (e.members.filter (·.id != m.id)).map (.rename ρ) := by
        rw [DirectoryEntry.rename, List.filter_map]
        refine congrArg _ (List.filter_congr fun x hx => ?_)
        exact congrArg not (h.same_id hfind hissued hx)
      refine h.of_ok (e := { e with members := e.members.filter (·.id != m.id) }) rfl ?_ ?_
      · simp only [Directory.client, Directory.deleteMember, hmember, hfails]
        exact ⟨⟨_, rfl⟩, find?_put_self ..⟩
      · simp only [Directory.client, Directory.deleteMember, hmember', Member.email_rename, hfails',
          hfiltered]
        exact ⟨⟨_, rfl⟩, find?_put_self ..⟩

end Calls

end Directory

end GroupKeeper
