import GroupKeeper.Group
import GroupKeeper.Proofs.Email

/-! Placing addresses under roles, on lists of members. Of several members with one mailbox only the
first counts: it gets the role of the address in place, and the others stay as they are. An address
whose mailbox nobody has is added at the end. -/

namespace GroupKeeper

/-- The first member with the mailbox of an address. -/
def mailbox? (ms : List Member) (email : String) : Option Member :=
  ms.find? (Email.equals ·.email email)

section Mailbox

variable {ms : List Member} {m : Member} {a b : String}

theorem mailbox?_eq_none_iff : mailbox? ms a = none ↔ ∀ m ∈ ms, Email.equals m.email a = false := by
  simp [mailbox?]

theorem mailbox?_eq_some (h : mailbox? ms a = some m) :
    ∃ front back, ms = front ++ m :: back ∧ Email.equals m.email a = true ∧
      ∀ x ∈ front, Email.equals x.email a = false := by
  obtain ⟨hm, front, back, rfl, hfront⟩ := List.find?_eq_some_iff_append.mp h
  exact ⟨front, back, rfl, hm, by simpa using hfront⟩

theorem mailbox?_of_front {front back : List Member} (hm : Email.equals m.email a = true)
    (hfront : ∀ x ∈ front, Email.equals x.email a = false) :
    mailbox? (front ++ m :: back) a = some m := by
  rw [mailbox?, List.find?_eq_some_iff_append]
  exact ⟨hm, front, back, rfl, by simpa using hfront⟩

theorem equals_of_mailbox? (h : mailbox? ms a = some m) : Email.equals m.email a = true := by
  simpa using List.find?_some h

theorem mem_of_mailbox? (h : mailbox? ms a = some m) : m ∈ ms :=
  List.mem_of_find?_eq_some h

theorem equals_eq_false_of_ne (h : Email.equals a b = false) (hm : Email.equals m.email a = true) :
    Email.equals m.email b = false := by
  rw [Bool.eq_false_iff]
  intro hmb
  rw [Email.equals_comm] at hm
  simp [Email.equals_trans hm hmb] at h

theorem mailbox?_filter {p : Member → Bool} (h : mailbox? ms a = some m) (hp : p m = true) :
    mailbox? (ms.filter p) a = some m := by
  obtain ⟨front, back, rfl, hm, hfront⟩ := mailbox?_eq_some h
  rw [List.filter_append, List.filter_cons_of_pos hp]
  exact mailbox?_of_front hm fun x hx => hfront x (List.mem_filter.mp hx).1

theorem mailbox?_congr (h : Email.equals a b = true) (ms : List Member) :
    mailbox? ms a = mailbox? ms b := by
  simp only [mailbox?, Email.equals_congr h]

theorem mailbox?_map {f : Member → Member} (hf : ∀ m, (f m).email = m.email) (ms : List Member)
    (a : String) : mailbox? (ms.map f) a = (mailbox? ms a).map f := by
  have hsame : (fun m => Email.equals (f m).email a) = fun m => Email.equals m.email a :=
    funext fun m => by rw [hf]
  rw [mailbox?, List.find?_map, Function.comp_def, hsame, mailbox?]

theorem mailbox?_append (ms ms' : List Member) (a : String) :
    mailbox? (ms ++ ms') a = (mailbox? ms a).or (mailbox? ms' a) :=
  List.find?_append

end Mailbox

/-! ## Placing addresses -/

/-- The role that a member gets when addresses are placed: that of the address whose mailbox it is
the first to have. -/
def givenRole? (ps : List (Role × String)) (ms : List Member) (m : Member) : Option Role :=
  (ps.find? fun p => mailbox? ms p.2 == some m).map (·.1)

/-- A member with the role that it gets. -/
def withGivenRole (ps : List (Role × String)) (ms : List Member) (m : Member) : Member :=
  { m with role := (givenRole? ps ms m).getD m.role }

/-- Members before and after addresses were placed under roles. -/
def PlacedAs (ps : List (Role × String)) (before after : List Member) : Prop :=
  ∃ new, after = before.map (withGivenRole ps before) ++ new ∧
    new.map (fun m => (m.role, m.email)) = ps.filter fun p => (mailbox? before p.2).isNone

/-- Addresses that all name different mailboxes. -/
def Apart (ps : List (Role × String)) : Prop :=
  ps.Pairwise fun p q => Email.equals p.2 q.2 = false

section PlacedAs

variable {ps qs : List (Role × String)} {ms ms' ms'' : List Member} {m : Member} {a : String}

theorem givenRole?_eq_some {r : Role} (h : givenRole? ps ms m = some r) :
    ∃ a, (r, a) ∈ ps ∧ mailbox? ms a = some m := by
  obtain ⟨⟨r', a⟩, hfind, rfl⟩ := Option.map_eq_some_iff.mp h
  exact ⟨a, List.mem_of_find?_eq_some hfind, by simpa using List.find?_some hfind⟩

theorem givenRole?_eq_none_iff :
    givenRole? ps ms m = none ↔ ∀ p ∈ ps, mailbox? ms p.2 ≠ some m := by
  simp [givenRole?]

theorem givenRole?_append :
    givenRole? (ps ++ qs) ms m = (givenRole? ps ms m).or (givenRole? qs ms m) := by
  rw [givenRole?, List.find?_append, Option.map_or]
  rfl

theorem givenRole?_congr {ms' : List Member}
    (h : ∀ p ∈ ps, mailbox? ms' p.2 = mailbox? ms p.2) :
    givenRole? ps ms' m = givenRole? ps ms m := by
  induction ps with
  | nil => rfl
  | cons p ps ih =>
      obtain ⟨hp, hrest⟩ := List.forall_mem_cons.mp h
      have ih' := ih hrest
      simp only [givenRole?] at ih' ⊢
      rw [List.find?_cons, List.find?_cons, hp]
      split
      · rfl
      · exact ih'

theorem givenRole?_eq_none_of_ne (h : ∀ p ∈ ps, Email.equals m.email p.2 = false) :
    givenRole? ps ms m = none := by
  refine givenRole?_eq_none_iff.mpr fun p hp hfirst => ?_
  simpa [h p hp] using equals_of_mailbox? hfirst

theorem withGivenRole_of_none (h : givenRole? ps ms m = none) : withGivenRole ps ms m = m := by
  rw [withGivenRole, h]
  rfl

theorem withGivenRole_of_some {r : Role} (h : givenRole? ps ms m = some r) :
    withGivenRole ps ms m = { m with role := r } := by
  rw [withGivenRole, h]
  rfl

@[simp] theorem email_withGivenRole (m : Member) : (withGivenRole ps ms m).email = m.email :=
  rfl

@[simp] theorem id_withGivenRole (m : Member) : (withGivenRole ps ms m).id = m.id :=
  rfl

theorem mem_of_new {new : List Member}
    (hnew : new.map (fun m => (m.role, m.email)) = ps.filter fun p => (mailbox? ms p.2).isNone)
    (hm : m ∈ new) : (m.role, m.email) ∈ ps ∧ mailbox? ms m.email = none := by
  have hmem : (m.role, m.email) ∈ new.map fun m => (m.role, m.email) :=
    List.mem_map.mpr ⟨m, hm, rfl⟩
  rw [hnew, List.mem_filter] at hmem
  exact ⟨hmem.1, by simpa using hmem.2⟩

theorem PlacedAs.nil (ms : List Member) : PlacedAs [] ms ms := by
  refine ⟨[], ?_, rfl⟩
  rw [List.append_nil]
  exact (List.map_id'' (fun m => withGivenRole_of_none rfl) ms).symm

theorem PlacedAs.others (h : PlacedAs ps ms ms')
    (hne : ∀ p ∈ ps, Email.equals p.2 a = false) : mailbox? ms' a = mailbox? ms a := by
  obtain ⟨new, rfl, hnew⟩ := h
  have hadded : mailbox? new a = none := by
    refine mailbox?_eq_none_iff.mpr fun m hm => ?_
    exact hne (m.role, m.email) (mem_of_new hnew hm).1
  have hkept : (mailbox? ms a).map (withGivenRole ps ms) = mailbox? ms a := by
    cases hfirst : mailbox? ms a with
    | none => rfl
    | some m =>
        refine congrArg some (withGivenRole_of_none (givenRole?_eq_none_of_ne fun p hp => ?_))
        refine equals_eq_false_of_ne ?_ (equals_of_mailbox? hfirst)
        rw [Email.equals_comm, hne p hp]
  rw [mailbox?_append, mailbox?_map email_withGivenRole, hadded, Option.or_none, hkept]

/-- Addresses that are placed later do not matter to those that were placed before, as they name
other mailboxes. -/
theorem PlacedAs.append (h : PlacedAs ps ms ms') (h' : PlacedAs qs ms' ms'')
    (hne : ∀ p ∈ ps, ∀ q ∈ qs, Email.equals p.2 q.2 = false) : PlacedAs (ps ++ qs) ms ms'' := by
  have hsame : ∀ q ∈ qs, mailbox? ms' q.2 = mailbox? ms q.2 :=
    fun q hq => h.others fun p hp => hne p hp q hq
  obtain ⟨new, rfl, hnew⟩ := h
  obtain ⟨more, rfl, hmore⟩ := h'
  -- A role that was given before is not given again, as its member has none of the later mailboxes.
  have hold : ∀ m, withGivenRole qs (ms.map (withGivenRole ps ms) ++ new) (withGivenRole ps ms m) =
      withGivenRole (ps ++ qs) ms m := by
    intro m
    cases hrole : givenRole? ps ms m with
    | some r =>
        obtain ⟨a, ha, hfirst⟩ := givenRole?_eq_some hrole
        have hnone : givenRole? qs (ms.map (withGivenRole ps ms) ++ new) (withGivenRole ps ms m) =
            none :=
          givenRole?_eq_none_of_ne fun q hq =>
            equals_eq_false_of_ne (m := m) (hne _ ha q hq) (equals_of_mailbox? hfirst)
        rw [withGivenRole_of_none hnone]
        simp only [withGivenRole, givenRole?_append, hrole, Option.some_or]
    | none =>
        have hlater : givenRole? qs (ms.map (withGivenRole ps ms) ++ new) m =
            givenRole? qs ms m := givenRole?_congr hsame
        rw [withGivenRole_of_none hrole]
        simp only [withGivenRole, givenRole?_append, hrole, Option.none_or, hlater]
  have hfresh : ∀ m ∈ new, withGivenRole qs (ms.map (withGivenRole ps ms) ++ new) m = m :=
    fun m hm => withGivenRole_of_none (givenRole?_eq_none_of_ne fun q hq =>
      hne _ (mem_of_new hnew hm).1 q hq)
  refine ⟨new ++ more, ?_, ?_⟩
  · rw [List.map_append, List.map_map, List.map_congr_left hfresh, List.map_id',
      List.append_assoc]
    congr 1
    exact List.map_congr_left fun m _ => hold m
  · rw [List.map_append, hnew, hmore, List.filter_append]
    congr 1
    refine List.filter_congr fun q hq => ?_
    rw [hsame q hq]

/-! ### One address -/

theorem placedAs_of_mailbox (h : mailbox? ms a = some m) : PlacedAs [(m.role, a)] ms ms := by
  refine ⟨[], ?_, by simp [h]⟩
  rw [List.append_nil]
  refine (List.map_id'' (fun x => ?_) ms).symm
  cases hrole : givenRole? [(m.role, a)] ms x with
  | none => exact withGivenRole_of_none hrole
  | some r =>
      obtain ⟨b, hb, hfirst⟩ := givenRole?_eq_some hrole
      obtain ⟨rfl, rfl⟩ := Prod.mk.inj (List.mem_singleton.mp hb)
      obtain rfl : m = x := Option.some.inj (h.symm.trans hfirst)
      exact withGivenRole_of_some hrole

theorem placedAs_changeRole {front back : List Member} (hm : Email.equals m.email a = true)
    (hfront : ∀ x ∈ front, Email.equals x.email a = false) (hback : m ∉ back) (role : Role) :
    PlacedAs [(role, a)] (front ++ m :: back) (front ++ { m with role } :: back) := by
  have hfirst : mailbox? (front ++ m :: back) a = some m := mailbox?_of_front hm hfront
  have hkeep : ∀ x, m ≠ x → withGivenRole [(role, a)] (front ++ m :: back) x = x := by
    intro x hne
    refine withGivenRole_of_none (givenRole?_eq_none_iff.mpr fun p hp => ?_)
    rw [List.mem_singleton.mp hp, hfirst]
    exact fun heq => hne (Option.some.inj heq)
  have hgiven : givenRole? [(role, a)] (front ++ m :: back) m = some role := by
    simp [givenRole?, hfirst]
  have hfrontKeep : ∀ x ∈ front, withGivenRole [(role, a)] (front ++ m :: back) x = x := by
    intro x hx
    refine hkeep x ?_
    rintro rfl
    simp [hfront _ hx] at hm
  have hbackKeep : ∀ x ∈ back, withGivenRole [(role, a)] (front ++ m :: back) x = x :=
    fun x hx => hkeep x fun heq => hback (heq ▸ hx)
  refine ⟨[], ?_, by simp [hfirst]⟩
  rw [List.append_nil, List.map_append, List.map_cons, List.map_congr_left hfrontKeep,
    List.map_congr_left hbackKeep, List.map_id', List.map_id', withGivenRole_of_some hgiven]

theorem placedAs_addMember (hnone : mailbox? ms a = none) (id : String) (role : Role) :
    PlacedAs [(role, a)] ms (ms ++ [⟨id, a, role⟩]) := by
  refine ⟨[⟨id, a, role⟩], ?_, by simp [hnone]⟩
  congr 1
  refine (List.map_id'' (fun x => withGivenRole_of_none ?_) ms).symm
  simp [givenRole?, hnone]

/-! ### What is placed -/

theorem givenRole?_of_mailbox (hps : Apart ps) {r : Role} (ha : (r, a) ∈ ps)
    (hfirst : mailbox? ms a = some m) : givenRole? ps ms m = some r := by
  cases hgiven : givenRole? ps ms m with
  | none => exact absurd hfirst (givenRole?_eq_none_iff.mp hgiven (r, a) ha)
  | some r' =>
      obtain ⟨b, hb, hfirst'⟩ := givenRole?_eq_some hgiven
      have hmb := equals_of_mailbox? hfirst'
      rw [Email.equals_comm] at hmb
      have hba : Email.equals b a = true := Email.equals_trans hmb (equals_of_mailbox? hfirst)
      obtain ⟨rfl, -⟩ := Prod.mk.inj (Email.eq_of_pairwise hps hb ha hba)
      rfl

/-- The first member of a placed mailbox has the role of the address. -/
theorem PlacedAs.placed (h : PlacedAs ps ms ms') (hps : Apart ps) {r : Role} (ha : (r, a) ∈ ps) :
    ∃ m, mailbox? ms' a = some m ∧ m.role = r := by
  obtain ⟨new, rfl, hnew⟩ := h
  rw [mailbox?_append, mailbox?_map email_withGivenRole]
  cases hfirst : mailbox? ms a with
  | some m =>
      exact ⟨_, rfl, by rw [withGivenRole_of_some (givenRole?_of_mailbox hps ha hfirst)]⟩
  | none =>
      have hadded : ((r, a) : Role × String) ∈ new.map fun m => (m.role, m.email) := by
        rw [hnew]
        exact List.mem_filter.mpr ⟨ha, by simp [hfirst]⟩
      obtain ⟨x, hx, hxeq⟩ := List.mem_map.mp hadded
      obtain ⟨-, rfl⟩ := Prod.mk.inj hxeq
      have hsome : ∃ m, mailbox? new x.email = some m := by
        refine Option.ne_none_iff_exists'.mp fun hnone => ?_
        simpa using mailbox?_eq_none_iff.mp hnone x hx
      obtain ⟨m, hm⟩ := hsome
      have hmem := (mem_of_new hnew (mem_of_mailbox? hm)).1
      obtain ⟨hrole, -⟩ := Prod.mk.inj (Email.eq_of_pairwise hps hmem ha (equals_of_mailbox? hm))
      exact ⟨m, by simpa using hm, hrole⟩

end PlacedAs

end GroupKeeper
