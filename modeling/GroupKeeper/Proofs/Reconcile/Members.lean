import Mathlib.Data.List.Nodup
import GroupKeeper.Proofs.Directory.Faults
import GroupKeeper.Proofs.Failure
import GroupKeeper.Proofs.Reconcile.Placing

/-! Confirmed changes to the members of a group. Placing addresses under a role settles those whose
membership can be changed and touches nothing that belongs to another mailbox, although every
decision is made on the members as they were before the first change. Removing members takes away
those who can be removed. Nothing fails but what the directory was told to. -/

namespace GroupKeeper

open Directory Program

/-- The address whose membership is changed when an address is placed. -/
def addressee (ms : List Member) (email : String) : String :=
  ((mailbox? ms email).map (·.email)).getD email

/-- Whether an address can be placed. -/
def Directory.reaches (d : Directory) (ms : List Member) (email : String) : Bool :=
  !d.failsMember (addressee ms email)

/-- Whether a member can be removed. -/
def Directory.releases (d : Directory) (m : Member) : Bool :=
  !d.failsMember m.email

theorem Directory.reaches_congr (d : Directory) {ms ms' : List Member} {emails : List String}
    (h : ∀ x ∈ emails, mailbox? ms' x = mailbox? ms x) :
    emails.filter (d.reaches ms') = emails.filter (d.reaches ms) := by
  refine List.filter_congr fun x hx => ?_
  rw [Directory.reaches, Directory.reaches, addressee, addressee, h x hx]

theorem Directory.Faultless.reaches {d : Directory} (h : Faultless d) (ms : List Member)
    (email : String) : d.reaches ms email = true := by
  rw [Directory.reaches, h.failsMember]
  rfl

theorem Directory.Faultless.releases {d : Directory} (h : Faultless d) (m : Member) :
    d.releases m = true := by
  rw [Directory.releases, h.failsMember]
  rfl

namespace Reconcile

/-- The group of an entry, with members that satisfy a condition. -/
def WithMembers (e : DirectoryEntry) (P : List Member → Prop) (o : Option DirectoryEntry) : Prop :=
  ∃ ms, o = some { e with members := ms } ∧ P ms

/-- Doing something for each item leaves what each of them leaves, and what they report is put
together. -/
theorem leaves_gather_cons {α : Type} {d₀ : Directory} {a : String}
    {P Q R : Option DirectoryEntry → Prop} {A B C : Failures → Prop} {act : α → Program Failures}
    {x : α} {xs : List α} (happend : ∀ fs gs, A fs → B gs → C (fs ++ gs))
    (hx : Leaves d₀ a P (act x) fun fs o => A fs ∧ Q o)
    (hxs : Leaves d₀ a Q (gather act xs) fun fs o => B fs ∧ R o) :
    Leaves d₀ a P (gather act (x :: xs)) fun fs o => C fs ∧ R o := by
  intro d hd hfaults hP
  obtain ⟨hA, hQ⟩ := hx d hd hfaults hP
  obtain ⟨hB, hR⟩ := hxs _ (hd.run _) (hfaults.trans (sameFaults_run _ d)) hQ
  rw [gather, run_bind, run_bind]
  exact ⟨happend _ _ hA hB, hR⟩

theorem none_append_of_imp {p : Prop} (fs gs : Failures) (h : p → fs = .none)
    (h' : p → gs = .none) (hp : p) : fs ++ gs = .none := by
  rw [h hp, h' hp, Failures.none_append]

section Steps

variable {d₀ : Directory} {g : GroupSpec} {e : DirectoryEntry} {role : Role} {ms : List Member}

/-- Listing gives the members of a group, or nothing where there is no such group. -/
theorem quiet_listMembers (confirm : Bool) (g : GroupSpec) (activity : Activity) (d : Directory) :
    Quiet client (listMembers (mode confirm) g activity) d
      (.ok ((d.find? g.emailId).map (·.members))) := by
  rw [listMembers, ask_bind]
  cases hfind : d.find? g.emailId with
  | none =>
      have hreply : (client (.listMembers g.emailId) d).1 = .error (groupNotFound g.emailId) := by
        simp [client, Directory.listMembers, hfind]
      refine quiet_read rfl hreply ?_
      simp only [mode_isMissing, isMissing_groupNotFound, if_true]
      exact .log _ (.pure _)
  | some e =>
      have hreply : (client (.listMembers g.emailId) d).1 = .ok e.members := by
        simp [client, Directory.listMembers, hfind]
      exact quiet_read rfl hreply (.pure _)

theorem quiet_listMembers_of_find {d : Directory} (hfind : d.find? g.emailId = some e)
    (confirm : Bool) (activity : Activity) :
    Quiet client (listMembers (mode confirm) g activity) d (.ok (some e.members)) := by
  have hlist := quiet_listMembers confirm g activity d
  rwa [hfind] at hlist

/-- What is done with the members of a group is done with all of them. -/
theorem Leaves.listMembers_bind {α : Type} {Q : α → Option DirectoryEntry → Prop}
    {f : Except Failure (Option (List Member)) → Program α} (activity : Activity)
    (h : Leaves d₀ g.emailId (· = some e) (f (.ok (some e.members))) Q) :
    Leaves d₀ g.emailId (· = some e) (listMembers (mode true) g activity >>= f) Q := by
  have hlist : Leaves d₀ g.emailId (· = some e) (listMembers (mode true) g activity) _ :=
    .of_quiet fun _ _ hfind => quiet_listMembers_of_find hfind true activity
  refine hlist.bind fun listed d hd hfaults hlisted => ?_
  obtain ⟨rfl, hfind⟩ := hlisted
  exact h d hd hfaults hfind

/-! ## Placing addresses -/

theorem leaves_changeRole {front back : List Member} {m : Member} (email : String) :
    Leaves d₀ g.emailId (· = some { e with members := front ++ m :: back })
      (changeRole (mode true) g role email m) fun fs o =>
        (d₀.failsMember m.email = true ∧ o = some { e with members := front ++ m :: back }) ∨
        (d₀.failsMember m.email = false ∧ fs = .none ∧
          o = some { e with members := front ++ { m with role } :: back }) := by
  intro d hd hfaults hfind
  simp only [changeRole, mode_confirm, if_true, emit_bind]
  rw [ask_bind, run_log, run_call]
  cases hfails : d₀.failsMember m.email with
  | true =>
      have hcall := client_updateMember_of_fails (a := g.emailId) m.id
        (m := { m with role }) ((hfaults.failsMember _).trans hfails)
      rw [hcall]
      exact .inl ⟨rfl, hfind⟩
  | false =>
      obtain ⟨⟨u, hok⟩, hget⟩ :=
        client_updateMember hd ((hfaults.failsMember _).trans hfails) hfind role
      rw [hok]
      exact .inr ⟨rfl, rfl, hget⟩

theorem leaves_addMember {email : String} (hfresh : ∀ m ∈ ms, m.email ≠ email) :
    Leaves d₀ g.emailId (· = some { e with members := ms }) (addMember (mode true) g role email)
      fun fs o =>
        (d₀.failsMember email = true ∧ o = some { e with members := ms }) ∨
        (d₀.failsMember email = false ∧ fs = .none ∧
          ∃ id, o = some { e with members := ms ++ [⟨id, email, role⟩] }) := by
  intro d hd hfaults hfind
  simp only [addMember, mode_confirm, if_true, emit_bind]
  rw [ask_bind, run_log, run_call]
  cases hfails : d₀.failsMember email with
  | true =>
      have hcall := client_insertMember_of_fails (a := g.emailId) (m := Member.new email role)
        ((hfaults.failsMember _).trans hfails)
      rw [hcall]
      exact .inl ⟨rfl, hfind⟩
  | false =>
      obtain ⟨⟨u, hok⟩, id, hget⟩ := client_insertMember (m := Member.new email role)
        ((hfaults.failsMember _).trans hfails) hfind hfresh
      rw [hok]
      exact .inr ⟨rfl, rfl, id, hget⟩

/-- Placing an address, decided on a list in which its mailbox has the same first member. -/
theorem leaves_placeMember {current : List Member} {x : String}
    (hcurrent : mailbox? current x = mailbox? ms x) :
    Leaves d₀ g.emailId (· = some { e with members := ms })
      (placeMember (mode true) g role current x) fun fs o => (Faultless d₀ → fs = .none) ∧
        WithMembers e (PlacedAs (([x].filter (d₀.reaches ms)).map (role, ·)) ms) o := by
  intro d hd hfaults hfind
  have hids : (ms.map (·.id)).Nodup := hd.nodup_members hfind
  suffices h : Leaves d₀ g.emailId (· = some { e with members := ms })
      (placeMember (mode true) g role current x) fun fs o => (Faultless d₀ → fs = .none) ∧
        WithMembers e (PlacedAs (([x].filter (d₀.reaches ms)).map (role, ·)) ms) o
    from h d hd hfaults hfind
  rw [mailbox?] at hcurrent
  rw [placeMember, hcurrent]
  cases hfirst : mailbox? ms x with
  | none =>
      have hnone := mailbox?_eq_none_iff.mp hfirst
      have hfresh : ∀ m ∈ ms, m.email ≠ x := by
        intro m hm heq
        simpa [heq] using hnone m hm
      refine (leaves_addMember hfresh).mono fun fs o h => ?_
      rcases h with ⟨hfails, rfl⟩ | ⟨hfails, rfl, id, rfl⟩
      · have hreaches : d₀.reaches ms x = false := by
          simp [reaches, addressee, hfirst, hfails]
        refine ⟨fun hd₀ => by simp [hd₀.failsMember] at hfails, ms, rfl, ?_⟩
        simpa [hreaches] using PlacedAs.nil ms
      · have hreaches : d₀.reaches ms x = true := by
          simp [reaches, addressee, hfirst, hfails]
        refine ⟨fun _ => rfl, _, rfl, ?_⟩
        simpa [hreaches] using placedAs_addMember hfirst id role
  | some m =>
      obtain ⟨front, back, rfl, hm, hfront⟩ := mailbox?_eq_some hfirst
      by_cases hrole : m.role = role
      · subst hrole
        simp only [if_true]
        refine .pure fun o h => ⟨fun _ => rfl, _, h, ?_⟩
        cases hreaches : d₀.reaches (front ++ m :: back) x with
        | true => simpa [hreaches] using placedAs_of_mailbox hfirst
        | false => simpa [hreaches] using PlacedAs.nil _
      · simp only [hrole, if_false]
        have hback : m ∉ back := by
          intro hmem
          rw [List.map_append, List.map_cons] at hids
          have hcons := (List.nodup_append.mp hids).2.1
          exact (List.nodup_cons.mp hcons).1 (List.mem_map.mpr ⟨m, hmem, rfl⟩)
        refine (leaves_changeRole x).mono fun fs o h => ?_
        rcases h with ⟨hfails, rfl⟩ | ⟨hfails, rfl, rfl⟩
        · have hreaches : d₀.reaches (front ++ m :: back) x = false := by
            simp [reaches, addressee, hfirst, hfails]
          refine ⟨fun hd₀ => by simp [hd₀.failsMember] at hfails, _, rfl, ?_⟩
          simpa [hreaches] using PlacedAs.nil _
        · have hreaches : d₀.reaches (front ++ m :: back) x = true := by
            simp [reaches, addressee, hfirst, hfails]
          refine ⟨fun _ => rfl, _, rfl, ?_⟩
          simpa [hreaches] using placedAs_changeRole hm hfront hback role

/-- Placing addresses that name different mailboxes. By the time an address is placed, the first
member of its mailbox is still the one that was listed. -/
theorem leaves_placeMembers {current : List Member} {emails : List String}
    (hcurrent : ∀ x ∈ emails, mailbox? current x = mailbox? ms x)
    (hdistinct : emails.Pairwise fun a b => Email.equals a b = false) :
    Leaves d₀ g.emailId (· = some { e with members := ms })
      (gather (placeMember (mode true) g role current) emails) fun fs o =>
        (Faultless d₀ → fs = .none) ∧
        WithMembers e (PlacedAs ((emails.filter (d₀.reaches ms)).map (role, ·)) ms) o := by
  induction emails generalizing ms with
  | nil => exact .pure fun o h => ⟨fun _ => rfl, _, h, .nil ms⟩
  | cons x emails ih =>
      obtain ⟨hx, hrest⟩ := List.forall_mem_cons.mp hcurrent
      obtain ⟨hne, hdistinct⟩ := List.pairwise_cons.mp hdistinct
      refine leaves_gather_cons none_append_of_imp (leaves_placeMember hx)
        (.of_exists fun ms' hplaced => ?_)
      have hother : ∀ y ∈ emails,
          ∀ p ∈ ([x].filter (d₀.reaches ms)).map (role, ·), Email.equals p.2 y = false := by
        intro y hy p hp
        obtain ⟨z, hz, rfl⟩ := List.mem_map.mp hp
        obtain rfl := List.mem_singleton.mp (List.mem_filter.mp hz).1
        exact hne y hy
      have hsame : ∀ y ∈ emails, mailbox? ms' y = mailbox? ms y :=
        fun y hy => hplaced.others (hother y hy)
      refine (ih (fun y hy => (hrest y hy).trans (hsame y hy).symm) hdistinct).mono fun fs o h => ?_
      obtain ⟨hnone, ms'', rfl, hplaced'⟩ := h
      refine ⟨hnone, ms'', rfl, ?_⟩
      rw [d₀.reaches_congr hsame] at hplaced'
      rw [← List.singleton_append, List.filter_append, List.map_append]
      refine hplaced.append hplaced' fun p hp q hq => ?_
      obtain ⟨y, hy, rfl⟩ := List.mem_map.mp hq
      exact hother y (List.mem_filter.mp hy).1 p hp

theorem leaves_addOrUpdateMembers {emails : List String}
    (hdistinct : emails.Pairwise fun a b => Email.equals a b = false) :
    Leaves d₀ g.emailId (· = some e) (addOrUpdateMembers (mode true) g role emails) fun fs o =>
      (Faultless d₀ → fs = .none) ∧
      WithMembers e (PlacedAs ((emails.filter (d₀.reaches e.members)).map (role, ·)) e.members)
        o := by
  simp only [addOrUpdateMembers, emit_bind]
  exact .log _ (Leaves.listMembers_bind _ (leaves_placeMembers (fun _ _ => rfl) hdistinct))

theorem ensures_addOrUpdateMembers {emails : List String}
    (hdistinct : emails.Pairwise fun a b => Email.equals a b = false) :
    Ensures g.emailId (· = some e) (addOrUpdateMembers (mode true) g role emails) .none
      (WithMembers e (PlacedAs (emails.map (role, ·)) e.members)) := by
  refine .of_leaves fun d₀ hd₀ => (leaves_addOrUpdateMembers hdistinct).mono fun fs o h => ?_
  obtain ⟨hnone, hplaced⟩ := h
  rw [List.filter_eq_self.mpr fun x _ => hd₀.reaches e.members x] at hplaced
  exact ⟨hnone hd₀, hplaced⟩

/-! ## Removing members -/

/-- What is told of a member who cannot be removed. -/
def removalFailure (g : GroupSpec) (m : Member) : Failure :=
  .during ("unable to remove " ++ m.email ++ " from " ++ Text.quote g.emailId ++ " as a "
    ++ m.role.name) (injected m.email)

/-- What is told of the removal of several members: who among them cannot be removed. -/
def refusals (d : Directory) (g : GroupSpec) (xs : List Member) : List Failure :=
  (xs.filter fun m => d.failsMember m.email).map (removalFailure g)

theorem refusals_append (d : Directory) (g : GroupSpec) (xs ys : List Member) :
    refusals d g (xs ++ ys) = refusals d g xs ++ refusals d g ys := by
  rw [refusals, List.filter_append, List.map_append]
  rfl

theorem none_of_refusals {xs : List Member} {fs : Failures} (h : fs.toList = refusals d₀ g xs)
    (hd₀ : Faultless d₀) : fs = .none := by
  apply Failures.ext_toList
  simp [h, refusals, hd₀.failsMember]

theorem leaves_removeMember {m : Member} (hm : m ∈ ms) :
    Leaves d₀ g.emailId (· = some { e with members := ms }) (removeMember (mode true) g m)
      fun fs o => fs.toList = refusals d₀ g [m] ∧
        o = some { e with
          members := ms.filter fun x => !([m].filter d₀.releases).any (·.id == x.id) } := by
  intro d hd hfaults hfind
  simp only [removeMember, mode_confirm, if_true, emit_bind]
  rw [ask_bind, run_log, run_call]
  cases hfails : d₀.failsMember m.email with
  | true =>
      have hcall := client_deleteMember_of_fails hd hfind hm ((hfaults.failsMember _).trans hfails)
      have hrefused : refusals d₀ g [m] = [removalFailure g m] := by simp [refusals, hfails]
      rw [hcall, hrefused]
      refine ⟨rfl, ?_⟩
      simpa [releases, hfails] using hfind
  | false =>
      obtain ⟨hok, hget⟩ := client_deleteMember hd hfind hm ((hfaults.failsMember _).trans hfails)
      have hsame : (fun x : Member => !([m].filter d₀.releases).any (·.id == x.id)) =
          (·.id != m.id) := by
        funext x
        have hpicked : [m].filter d₀.releases = [m] := by simp [releases, hfails]
        rw [hpicked, List.any_cons, List.any_nil, Bool.or_false]
        exact bne_comm
      have hrefused : refusals d₀ g [m] = [] := by simp [refusals, hfails]
      rw [hok, hsame, hrefused]
      exact ⟨rfl, hget⟩

/-- Removing several members removes those who can be removed, and tells of the others. -/
theorem leaves_removeEach {xs : List Member} (hxs : ∀ m ∈ xs, m ∈ ms)
    (hids : (xs.map (·.id)).Nodup) :
    Leaves d₀ g.emailId (· = some { e with members := ms })
      (gather (removeMember (mode true) g) xs) fun fs o => fs.toList = refusals d₀ g xs ∧
        o = some { e with
          members := ms.filter fun m => !(xs.filter d₀.releases).any (·.id == m.id) } := by
  induction xs generalizing ms with
  | nil => exact .pure fun o h => ⟨rfl, by simpa using h⟩
  | cons x xs ih =>
      obtain ⟨hx, hrest⟩ := List.forall_mem_cons.mp hxs
      obtain ⟨hfresh, hids⟩ := List.nodup_cons.mp hids
      have hleft : ∀ m ∈ xs,
          m ∈ ms.filter fun m => !([x].filter d₀.releases).any (·.id == m.id) := by
        intro m hm
        refine List.mem_filter.mpr ⟨hrest m hm, ?_⟩
        have hne : x.id ≠ m.id := fun heq => hfresh (List.mem_map.mpr ⟨m, hm, heq.symm⟩)
        simp [List.filter_cons, hne]
      have htold : ∀ fs gs : Failures, fs.toList = refusals d₀ g [x] →
          gs.toList = refusals d₀ g xs → (fs ++ gs).toList = refusals d₀ g (x :: xs) := by
        intro fs gs hfs hgs
        rw [Failures.toList_append, hfs, hgs, ← refusals_append, List.singleton_append]
      refine (leaves_gather_cons (C := fun fs => fs.toList = refusals d₀ g (x :: xs)) htold
        (leaves_removeMember hx) (ih hleft hids)).mono fun fs o h => ?_
      have hsplit : (x :: xs).filter d₀.releases =
          [x].filter d₀.releases ++ xs.filter d₀.releases := List.filter_append [x] xs
      refine ⟨h.1, h.2.trans ?_⟩
      rw [List.filter_filter, hsplit]
      refine congrArg (fun ms => some { e with members := ms }) (List.filter_congr fun m _ => ?_)
      rw [List.any_append, Bool.not_or, Bool.and_comm]

/-- With different ids, a member is among those picked by id exactly if it was picked. -/
theorem filter_not_any_id (hids : (ms.map (·.id)).Nodup) (p : Member → Bool) :
    ms.filter (fun m => !(ms.filter p).any (·.id == m.id)) = ms.filter fun m => !p m := by
  refine List.filter_congr fun m hm => ?_
  rw [Bool.not_inj_iff, Bool.eq_iff_iff, List.any_eq_true]
  constructor
  · rintro ⟨x, hx, hid⟩
    obtain ⟨hxmem, hx⟩ := List.mem_filter.mp hx
    rwa [← List.inj_on_of_nodup_map hids hxmem hm (eq_of_beq hid)]
  · exact fun h => ⟨m, List.mem_filter.mpr ⟨hm, h⟩, beq_self_eq_true _⟩

/-- Removing what is not listed leaves the rest, in order and as it was. -/
theorem leaves_removeUnlisted (keep : List String) (removable : Member → Bool) :
    Leaves d₀ g.emailId (· = some e) (removeUnlisted (mode true) g keep removable) fun fs o =>
      fs.toList = refusals d₀ g
        (e.members.filter fun m => removable m && !Email.contains keep m.email) ∧
      o = some { e with
        members := e.members.filter fun m =>
          !(d₀.releases m && (removable m && !Email.contains keep m.email)) } := by
  intro d hd hfaults hfind
  have hids := hd.nodup_members hfind
  have hremove : Leaves d₀ g.emailId (· = some { e with members := e.members })
      (gather (removeMember (mode true) g)
        (e.members.filter fun m => removable m && !Email.contains keep m.email)) _ :=
    leaves_removeEach (fun m hm => (List.mem_filter.mp hm).1)
      (hids.sublist (List.filter_sublist.map _))
  have hall : Leaves d₀ g.emailId (· = some e) (removeUnlisted (mode true) g keep removable) _ :=
    Leaves.listMembers_bind .removingMembers hremove
  obtain ⟨htold, hstate⟩ := hall d hd hfaults hfind
  rw [List.filter_filter, filter_not_any_id hids] at hstate
  exact ⟨htold, hstate⟩

end Steps

end Reconcile

end GroupKeeper
