import Mathlib.Data.Multiset.ZeroCons
import GroupKeeper.Proofs.Reconcile.Convergence

/-! Members who are all different stay so, whatever fails. Where nothing fails, they then correspond
one to one to the addresses that are listed, but for mere members who are listed nowhere. -/

namespace GroupKeeper

open Directory Program

/-- Members that all have different mailboxes. -/
def MembersApart (ms : List Member) : Prop :=
  ms.Pairwise fun m m' => Email.equals m.email m'.email = false

instance (ms : List Member) : Decidable (MembersApart ms) :=
  inferInstanceAs (Decidable (ms.Pairwise _))

/-- A member has the mailbox of a listed address, and the role under which it is listed. -/
def Fits (p : Role × String) (m : Member) : Prop :=
  m.role = p.1 ∧ Email.equals m.email p.2 = true

section Apart

variable {ps : List (Role × String)} {ms ms' : List Member}

theorem MembersApart.perm (h : MembersApart ms) (hperm : ms.Perm ms') : MembersApart ms' := by
  refine (hperm.pairwise_iff fun {m m'} hne => ?_).mp h
  rw [Email.equals_comm, hne]

/-- Placing addresses adds nobody whose mailbox somebody has. -/
theorem PlacedAs.membersApart (h : PlacedAs ps ms ms') (hps : Apart ps) (hms : MembersApart ms) :
    MembersApart ms' := by
  obtain ⟨new, rfl, hnew⟩ := h
  rw [MembersApart, List.pairwise_append, List.pairwise_map]
  refine ⟨hms, ?_, ?_⟩
  · have hplaced : (new.map fun m => (m.role, m.email)).Pairwise fun p q =>
        Email.equals p.2 q.2 = false := by
      rw [hnew]
      exact List.Pairwise.filter _ hps
    exact List.pairwise_map.mp hplaced
  · intro m hm m' hm'
    obtain ⟨x, hx, rfl⟩ := List.mem_map.mp hm
    exact mailbox?_eq_none_iff.mp (mem_of_new hnew hm').2 x hx

/-- Where both sides are free of duplicates, it is enough that every address has a fitting member
and that every member is listed. -/
theorem rel_fits (hps : Apart ps) (hms : MembersApart ms) (hfit : ∀ p ∈ ps, ∃ m ∈ ms, Fits p m)
    (hlisted : ∀ m ∈ ms, ∃ p ∈ ps, Email.equals m.email p.2 = true) :
    Multiset.Rel Fits ps ms := by
  induction ps generalizing ms with
  | nil =>
      have hnil : ms = [] := by
        apply List.eq_nil_iff_forall_not_mem.mpr
        intro m hm
        obtain ⟨p, hp, -⟩ := hlisted m hm
        simp at hp
      rw [hnil]
      exact .zero
  | cons p ps ih =>
      obtain ⟨hne, hps⟩ := List.pairwise_cons.mp hps
      obtain ⟨⟨m, hm, hpm⟩, hrest⟩ := List.forall_mem_cons.mp hfit
      obtain ⟨front, back, rfl⟩ := List.append_of_mem hm
      have hmove : (front ++ m :: back).Perm (m :: (front ++ back)) := List.perm_middle
      obtain ⟨hother, hleft⟩ := List.pairwise_cons.mp (hms.perm hmove)
      rw [Multiset.coe_eq_coe.mpr hmove, ← Multiset.cons_coe, ← Multiset.cons_coe]
      refine Multiset.Rel.cons hpm (ih hps hleft ?_ ?_)
      · intro q hq
        obtain ⟨x, hx, hqx⟩ := hrest q hq
        rcases List.mem_cons.mp (hmove.subset hx) with rfl | hx
        · -- One member cannot fit two addresses, as these name different mailboxes.
          have hxq := equals_eq_false_of_ne (hne q hq) hpm.2
          simp [hqx.2] at hxq
        · exact ⟨x, hx, hqx⟩
      · intro x hx
        obtain ⟨q, hq, hqx⟩ := hlisted x (hmove.symm.subset (List.mem_cons_of_mem _ hx))
        rcases List.mem_cons.mp hq with rfl | hq
        · have hxm := Email.equals_trans hqx (Email.equals_symm hpm.2)
          rw [Email.equals_comm, hother x hx] at hxm
          contradiction
        · exact ⟨q, hq, hqx⟩

/-- The same for addresses and members under some of the roles. -/
theorem rel_fits_filter (hps : Apart ps) (hms : MembersApart ms)
    (hfit : ∀ p ∈ ps, ∃ m ∈ ms, Fits p m) (counts : Role → Bool)
    (hlisted : ∀ m ∈ ms, counts m.role = true → ∃ p ∈ ps, Email.equals m.email p.2 = true) :
    Multiset.Rel Fits (ps.filter (counts ·.1)) (ms.filter (counts ·.role)) := by
  apply rel_fits (List.Pairwise.filter _ hps) (List.Pairwise.filter _ hms)
  · intro p hp
    obtain ⟨hp, hcounts⟩ := List.mem_filter.mp hp
    obtain ⟨m, hm, hpm⟩ := hfit p hp
    exact ⟨m, List.mem_filter.mpr ⟨hm, by rw [hpm.1]; exact hcounts⟩, hpm⟩
  · intro m hm
    obtain ⟨hm, hcounts⟩ := List.mem_filter.mp hm
    obtain ⟨p, hp, heq⟩ := hlisted m hm hcounts
    obtain ⟨m', hm', hpm'⟩ := hfit p hp
    have hsame : Email.equals m.email m'.email = true :=
      Email.equals_trans heq (Email.equals_symm hpm'.2)
    obtain rfl := Email.eq_of_pairwise hms hm hm' hsame
    exact ⟨p, List.mem_filter.mpr ⟨hp, by rw [← hpm'.1]; exact hcounts⟩, heq⟩

end Apart

/-! ## Members of a reconciled group -/

/-- Whether somebody is a mere member and listed nowhere. -/
def unlistedMember (g : GroupSpec) (m : Member) : Bool :=
  m.role == .member && !Email.contains g.allMembers m.email

/-- What a reconciled group lists and who its members are, one for one. If members are reconciled,
these are all of its members. Otherwise mere members who are listed nowhere are there besides, as
they were. -/
structure ExactMembers (g : GroupSpec) (before after : List Member) : Prop where
  all : g.settings.get? reconcileMembersKey = some "true" →
    Multiset.Rel Fits (Validation.listed g) after
  privileged : g.settings.get? reconcileMembersKey ≠ some "true" →
    Multiset.Rel Fits ((Validation.listed g).filter (·.1 != .member))
      (after.filter (·.role != .member))
  members : g.settings.get? reconcileMembersKey ≠ some "true" → ∃ listed : List Member,
    Multiset.Rel Fits ((Validation.listed g).filter (·.1 == .member)) listed ∧
    (after.filter (·.role == .member)).Perm (listed ++ before.filter (unlistedMember g))

namespace Reconcile

section Exact

variable {g : GroupSpec} {ms placed : List Member} {m : Member}

theorem withGivenRole_of_unlisted (h : Email.contains g.allMembers m.email = false) :
    withGivenRole (Validation.listed g) ms m = m := by
  refine withGivenRole_of_none (givenRole?_eq_none_of_ne fun p hp => ?_)
  by_contra hne
  rw [Bool.not_eq_false] at hne
  rw [contains_allMembers_iff.mpr ⟨p, hp, hne⟩] at h
  contradiction

/-- Neither placing addresses nor removing owners and managers does anything to mere members who are
listed nowhere, or adds any. -/
theorem filter_unlistedMember (hmode : g.reconcilesMembers = false)
    (h : PlacedAs (Validation.listed g) ms placed) :
    (placed.filter fun m => !goes g m).filter (unlistedMember g) =
      ms.filter (unlistedMember g) := by
  have hstays : ∀ m ∈ placed, (unlistedMember g m && !goes g m) = unlistedMember g m := by
    intro m _
    rw [goes_eq_of_not_reconciles hmode, unlistedMember]
    cases hrole : m.role == .member <;> simp [bne, hrole]
  obtain ⟨new, rfl, hnew⟩ := h
  have hadded : new.filter (unlistedMember g) = [] := by
    apply List.filter_eq_nil_iff.mpr
    intro m hm
    have hlisted := (mem_of_new hnew hm).1
    simp [unlistedMember, contains_allMembers_iff.mpr ⟨_, hlisted, Email.equals_refl _⟩]
  have hsame : ∀ m ∈ ms,
      unlistedMember g (withGivenRole (Validation.listed g) ms m) = unlistedMember g m := by
    intro m _
    cases hcontains : Email.contains g.allMembers m.email with
    | true => simp [unlistedMember, hcontains]
    | false => rw [withGivenRole_of_unlisted hcontains]
  have hkept : ∀ m ∈ ms.filter (unlistedMember g),
      withGivenRole (Validation.listed g) ms m = m := by
    intro m hm
    have hm := (List.mem_filter.mp hm).2
    rw [unlistedMember, Bool.and_eq_true, Bool.not_eq_true'] at hm
    exact withGivenRole_of_unlisted hm.2
  rw [List.filter_filter, List.filter_congr hstays, List.filter_append, hadded, List.append_nil,
    List.filter_map, Function.comp_def, List.filter_congr hsame, List.map_congr_left hkept,
    List.map_id']

theorem filter_member_perm (ms : List Member) : (ms.filter (·.role == .member)).Perm
    ((ms.filter fun m => m.role == .member && Email.contains g.allMembers m.email) ++
      ms.filter (unlistedMember g)) := by
  have hsplit := List.filter_append_perm (fun m => Email.contains g.allMembers m.email)
    (ms.filter (·.role == .member))
  rw [List.filter_filter, List.filter_filter] at hsplit
  simp only [Bool.and_comm _ (_ == Role.member)] at hsplit
  exact hsplit.symm

/-- Members who were all different correspond to what is listed once they are reconciled. -/
theorem exactMembers_of_placedAs (hg : g.Distinct) (hms : MembersApart ms)
    (h : PlacedAs (Validation.listed g) ms placed) :
    ExactMembers g ms (placed.filter fun m => !goes g m) := by
  have hlisted := apart_listed hg
  have hapart : MembersApart (placed.filter fun m => !goes g m) :=
    List.Pairwise.filter _ (h.membersApart hlisted hms)
  have hwanted := wantedMembers_of_placedAs hg h
  generalize hafter : (placed.filter fun m => !goes g m) = after at hapart hwanted
  have hfit : ∀ p ∈ Validation.listed g, ∃ m ∈ after, Fits p m := by
    intro p hp
    obtain ⟨m, hfirst, hrole⟩ := hwanted.roles p.1 p.2 (mem_listed.mp hp)
    exact ⟨m, mem_of_mailbox? hfirst, hrole, equals_of_mailbox? hfirst⟩
  constructor
  · intro hmode
    apply rel_fits hlisted hapart hfit
    intro m hm
    exact contains_allMembers_iff.mp (hwanted.onlyListed hmode m hm)
  · intro hmode
    apply rel_fits_filter hlisted hapart hfit (· != .member)
    intro m hm hrole
    have hcontains := hwanted.onlyPrivileged hmode m hm (by simpa using hrole)
    obtain ⟨p, hp, -, heq⟩ := contains_ownersAndManagers_iff.mp hcontains
    exact ⟨p, hp, heq⟩
  · intro hmode
    have hdefault : g.reconcilesMembers = false := by
      rw [Bool.eq_false_iff]
      exact fun htrue => hmode (reconcilesMembers_iff.mp htrue)
    refine ⟨after.filter fun m => m.role == .member && Email.contains g.allMembers m.email, ?_, ?_⟩
    · rw [← List.filter_filter]
      refine rel_fits_filter hlisted (List.Pairwise.filter _ hapart) ?_ (· == .member) ?_
      · intro p hp
        obtain ⟨m, hm, hpm⟩ := hfit p hp
        have hcontains := contains_allMembers_iff.mpr ⟨p, hp, hpm.2⟩
        exact ⟨m, List.mem_filter.mpr ⟨hm, hcontains⟩, hpm⟩
      · intro m hm _
        exact contains_allMembers_iff.mp (List.mem_filter.mp hm).2
    · rw [← filter_unlistedMember hdefault h, hafter]
      exact filter_member_perm after

end Exact

/-! ## Runs -/

/-- A directory in which the members of every group have different mailboxes. -/
def AllApart (d : Directory) : Prop :=
  ∀ k e, d.groups.get? k = some e → MembersApart e.members

section Runs

variable {d : Directory} {g : GroupSpec} {gs : List GroupSpec}

theorem allApart_iff : AllApart d ↔ ∀ e ∈ d.groups.values, MembersApart e.members := by
  constructor
  · intro h e he
    obtain ⟨k, hget⟩ := Dictionary.mem_values_iff.mp he
    exact h k e hget
  · intro h k e hget
    exact h e (Dictionary.mem_values_iff.mpr ⟨k, hget⟩)

theorem AllApart.find (h : AllApart d) (a : String) :
    MembersApart ((d.find? a).getD .blank).members := by
  cases hfind : d.find? a with
  | none => exact List.Pairwise.nil
  | some e => exact h _ e hfind

/-- Whatever fails of the job of a group, the members of every group stay different. -/
theorem AllApart.job (h : AllApart d) (hd : WellFormed d) (hg : g.Distinct) :
    AllApart ((reconcileGroup (mode true) g).run client d).state := by
  intro k e he
  by_cases hk : k = key g.emailId
  · subst hk
    obtain ⟨-, hfound⟩ := leaves_reconcileGroup hg (d.find? g.emailId) d hd (.refl d) rfl
    by_cases hmissing : d.failsGroup g.emailId = true ∧ d.find? g.emailId = none
    · rw [found_of_missing hmissing, find?, he] at hfound
      contradiction
    · rw [found_of_not_missing hmissing] at hfound
      obtain ⟨e', hfind, hhandled⟩ := hfound
      obtain rfl : e = e' := Option.some.inj (he.symm.trans hfind)
      obtain ⟨placed, hplaced, hmembers⟩ := hhandled.members
      rw [hmembers]
      have hlisted : Apart ((Validation.listed g).filter fun p =>
          d.reaches ((d.find? g.emailId).getD .blank).members p.2) :=
        List.Pairwise.filter _ (apart_listed hg)
      exact List.Pairwise.filter _ (hplaced.membersApart hlisted (h.find g.emailId))
  · rw [get?_run_reconcileGroup (mode true) g hk] at he
    exact h k e he

/-- Removing groups does nothing to the members of those that are left. -/
theorem AllApart.orphans (h : AllApart d) (hd : WellFormed d) (gs : List GroupSpec) :
    AllApart ((deleteOrphans (mode true) gs).run client d).state := by
  intro k e he
  rw [get?_run_deleteOrphans hd] at he
  split at he
  · exact h k e he
  · exact h k e (Option.filter_eq_some_iff.mp he).1

/-- Members who are all different stay so in a run, whatever fails and whether it ends. -/
theorem AllApart.run (h : AllApart d) (hd : WellFormed d) (hgs : Distinct gs)
    (workers delay : Nat) (deadline : Option Nat) :
    AllApart (reconcileTimed client delay deadline (mode true) workers gs d).state := by
  suffices hkept :
      WellFormed (reconcileTimed client delay deadline (mode true) workers gs d).state ∧
        AllApart (reconcileTimed client delay deadline (mode true) workers gs d).state from hkept.2
  refine reconcileTimed_invariant (I := fun t => WellFormed t ∧ AllApart t) ?_ ?_ ⟨hd, h⟩
  · rintro p hp t ⟨ht, happart⟩
    rw [jobs_of_distinct _ hgs] at hp
    obtain ⟨g, hg, rfl⟩ := List.mem_map.mp hp
    exact ⟨ht.run _, happart.job ht (hgs.members g hg)⟩
  · rintro t ⟨ht, happart⟩
    exact ⟨ht.run _, happart.orphans ht gs⟩

end Runs

/-- From every directory that can be built, a confirmed run of a checked roster keeps the members of
each group different from each other, whatever the directory was told to fail at and whether the run
ends. If it was not told to fail, a run that ends leaves every wanted group with exactly the members
that are listed, and with the mere members that it had and that are listed nowhere if members are
not reconciled. -/
theorem reconcileTimed_exactMembers {d : Directory} (hd : Reachable d) (happart : AllApart d)
    {c : Roster} (hc : Validation.validate c = .ok ()) (workers delay : Nat)
    (deadline : Option Nat) :
    AllApart (reconcileTimed client delay deadline (mode true) workers c.groups d).state ∧
    (deadline = none →
      (reconcileTimed client delay deadline (mode true) workers c.groups d).value.isSome) ∧
    (Faultless d →
      (reconcileTimed client delay deadline (mode true) workers c.groups d).value.isSome →
      ∀ g ∈ c.groups, ∃ e,
        (reconcileTimed client delay deadline (mode true) workers c.groups d).state.find?
          g.emailId = some e ∧
        ExactMembers g ((d.find? g.emailId).getD .blank).members e.members) := by
  have hgs := Validation.distinct_of_validate hc
  refine ⟨happart.run hd.wellFormed hgs workers delay deadline, ?_, ?_⟩
  · intro hnone
    subst hnone
    exact isSome_reconcileTimed
  · intro hfaultless hends g hg
    obtain ⟨fs, hfs⟩ := Option.isSome_iff_exists.mp hends
    rw [(reconcileTimed_completed hfs).1]
    obtain ⟨e, hfind, hreconciled⟩ :=
      reconciled_run_reconcileGroups hgs (hd.healthy hfaultless) workers g hg
    obtain ⟨placed, hplaced, hmembers⟩ := hreconciled.members
    refine ⟨e, hfind, ?_⟩
    rw [hmembers]
    exact exactMembers_of_placedAs (hgs.members g hg) (happart.find g.emailId) hplaced

theorem sample_exactMembers : AllApart sampleDirectory ∧
    AllApart
      (reconcileTimed client 3 none (mode true) 2 sampleRoster.groups sampleDirectory).state ∧
    ∀ g ∈ sampleRoster.groups, ∃ e,
      (reconcileTimed client 3 none (mode true) 2 sampleRoster.groups sampleDirectory).state.find?
        g.emailId = some e ∧
      ExactMembers g ((sampleDirectory.find? g.emailId).getD .blank).members e.members := by
  have happart : AllApart sampleDirectory := allApart_iff.mpr (by decide +kernel)
  obtain ⟨hkept, hends, hexact⟩ := reconcileTimed_exactMembers reachable_sampleDirectory happart
    validate_sampleRoster 2 3 none
  exact ⟨happart, hkept, hexact faultless_sampleDirectory (hends rfl)⟩

end Reconcile

end GroupKeeper
