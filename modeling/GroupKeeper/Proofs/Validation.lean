import Mathlib.Data.List.Basic
import GroupKeeper.Validation
import GroupKeeper.Reconcile.Run
import GroupKeeper.Proofs.Email
import GroupKeeper.Proofs.Failure

/-! What a checked roster may be relied on for: its groups have addresses that name different
groups, and within a group every mailbox is listed once. -/

namespace GroupKeeper

/-- A group that has an address, and that lists every mailbox at most once. -/
structure GroupSpec.Distinct (g : GroupSpec) : Prop where
  named : g.emailId ≠ ""
  within : ∀ r, (g.emails r).Pairwise fun a b => Email.equals a b = false
  across : ∀ r s, r ≠ s → ∀ a ∈ g.emails r, ∀ b ∈ g.emails s, Email.equals a b = false

/-- Groups that can be told apart, each of them with distinct members. -/
structure Distinct (gs : List GroupSpec) : Prop where
  groups : gs.Pairwise fun g h => Email.equals g.emailId h.emailId = false
  members : ∀ g ∈ gs, g.Distinct

namespace Validation

theorem equals_eq_false_iff {a b : String} :
    Email.equals a b = false ↔ Email.canonical a ≠ Email.canonical b := by
  rw [Email.equals_eq_decide, decide_eq_false_iff_not]

/-- Listed addresses are accepted if they are all different and none was seen before. -/
theorem memberProblems_eq_nil_iff {group : String} {seen : List (String × Role)}
    {es : List (Role × String)} : memberProblems group seen es = [] ↔
      (∀ e ∈ es, ∀ s ∈ seen, s.1 ≠ Email.canonical e.2) ∧
        es.Pairwise fun a b => Email.canonical a.2 ≠ Email.canonical b.2 := by
  induction es generalizing seen with
  | nil => simp [memberProblems]
  | cons e es ih =>
      obtain ⟨role, email⟩ := e
      simp only [memberProblems, List.forall_mem_cons, List.pairwise_cons]
      cases h : seen.find? (·.1 == Email.canonical email) with
      | some s =>
          have hkey := List.find?_some h
          have hmem := List.mem_of_find?_eq_some h
          simp only [beq_iff_eq] at hkey
          simp only [reduceCtorEq, false_iff]
          exact fun hall => hall.1.1 s hmem hkey
      | none =>
          have hfresh : ∀ s ∈ seen, s.1 ≠ Email.canonical email := by
            simpa using h
          simp only [ih, List.forall_mem_cons]
          constructor
          · rintro ⟨hseen, hes⟩
            exact ⟨⟨hfresh, fun e he => (hseen e he).2⟩, fun e he => (hseen e he).1, hes⟩
          · rintro ⟨⟨-, hseen⟩, hhead, hes⟩
            exact ⟨fun e he => ⟨hhead e he, hseen e he⟩, hes⟩

theorem distinct_of_memberProblems {g : GroupSpec} (hnamed : g.emailId ≠ "")
    (h : memberProblems g.emailId [] (listed g) = []) : g.Distinct := by
  have hlisted := (memberProblems_eq_nil_iff.mp h).2
  simp only [listed, Role.all, List.flatMap_cons, List.flatMap_nil, List.append_nil,
    List.pairwise_append, List.pairwise_map, List.mem_append, List.mem_map] at hlisted
  obtain ⟨howners, ⟨hmanagers, hmembers, hlow⟩, hhigh⟩ := hlisted
  have hom : ∀ a ∈ g.owners, ∀ b ∈ g.managers, Email.canonical a ≠ Email.canonical b :=
    fun a ha b hb => hhigh (.owner, a) ⟨a, ha, rfl⟩ (.manager, b) (.inl ⟨b, hb, rfl⟩)
  have hop : ∀ a ∈ g.owners, ∀ b ∈ g.members, Email.canonical a ≠ Email.canonical b :=
    fun a ha b hb => hhigh (.owner, a) ⟨a, ha, rfl⟩ (.member, b) (.inr ⟨b, hb, rfl⟩)
  have hmp : ∀ a ∈ g.managers, ∀ b ∈ g.members, Email.canonical a ≠ Email.canonical b :=
    fun a ha b hb => hlow (.manager, a) ⟨a, ha, rfl⟩ (.member, b) ⟨b, hb, rfl⟩
  refine ⟨hnamed, fun r => ?_, fun r s hne a ha b hb => ?_⟩
  · simp only [equals_eq_false_iff]
    cases r with
    | owner => exact howners
    | manager => exact hmanagers
    | member => exact hmembers
  · rw [equals_eq_false_iff]
    cases r <;> cases s
    · exact absurd rfl hne
    · exact hom a ha b hb
    · exact hop a ha b hb
    · exact Ne.symm (hom b hb a ha)
    · exact absurd rfl hne
    · exact hmp a ha b hb
    · exact Ne.symm (hop b hb a ha)
    · exact Ne.symm (hmp b hb a ha)
    · exact absurd rfl hne

theorem distinct_of_groupProblems {g : GroupSpec} (hnamed : g.emailId ≠ "")
    (h : groupProblems g = []) : g.Distinct := by
  simp only [groupProblems, List.append_eq_nil_iff] at h
  exact distinct_of_memberProblems hnamed h.1.1

/-- Groups are accepted only if they can be told apart and are fine by themselves. -/
theorem distinct_of_problemsAfter {seen : List String} {gs : List GroupSpec}
    (h : problemsAfter seen gs = []) :
    Distinct gs ∧ ∀ g ∈ gs, Email.canonical g.emailId ∉ seen := by
  induction gs generalizing seen with
  | nil => exact ⟨⟨.nil, by simp⟩, by simp⟩
  | cons g gs ih =>
      simp only [problemsAfter] at h
      split at h
      · simp at h
      · next hnamed =>
        split at h
        · simp at h
        · next hfresh =>
          rw [List.append_eq_nil_iff] at h
          obtain ⟨⟨hgroups, hmembers⟩, hseen⟩ := ih h.2
          simp only [List.mem_cons, not_or] at hseen
          have hg : g.Distinct := distinct_of_groupProblems (by simpa using hnamed) h.1
          refine ⟨⟨?_, List.forall_mem_cons.mpr ⟨hg, hmembers⟩⟩, ?_⟩
          · refine List.pairwise_cons.mpr ⟨fun g' hg' => ?_, hgroups⟩
            exact equals_eq_false_iff.mpr (Ne.symm (hseen g' hg').1)
          · exact List.forall_mem_cons.mpr
              ⟨by simpa using hfresh, fun g' hg' => (hseen g' hg').2⟩

/-- The groups of a checked roster are distinct. -/
theorem distinct_of_validate {c : Roster} (h : validate c = .ok ()) : Distinct c.groups := by
  have hnone := Failures.result_eq_ok_iff.mp h
  have hleaves := congrArg Failures.toList hnone
  rw [Failures.toList_ofList, List.flatMap_map] at hleaves
  have hproblems : problems c = [] := by
    cases hc : problems c with
    | nil => rfl
    | cons p ps => simp [hc, Failure.leaves, Failure.several?] at hleaves
  exact (distinct_of_problemsAfter hproblems).1

end Validation

end GroupKeeper
