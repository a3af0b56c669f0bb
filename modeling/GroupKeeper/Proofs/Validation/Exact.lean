import Mathlib.Data.List.Infix
import GroupKeeper.Proofs.Validation

/-! A roster is accepted exactly if no two addresses in it clash, and what is reported otherwise is
found by comparing each address with those before it. The check itself compares nothing pairwise: it
remembers normal forms, and of a listed address the role under which it came first. -/

namespace GroupKeeper.Validation

/-! ## Items after others -/

section WithEarlier

variable {α β : Type}

/-- The items of a list, each with those before it. -/
def withEarlier (xs : List α) : List (List α × α) :=
  xs.inits.zip xs

theorem withEarlier_cons (x : α) (xs : List α) :
    withEarlier (x :: xs) = ([], x) :: (withEarlier xs).map fun p => (x :: p.1, p.2) := by
  simp [withEarlier, List.zip_map_left, Prod.map]

theorem forall_mem_withEarlier_cons {P : List α × α → Prop} {x : α} {xs : List α} :
    (∀ p ∈ withEarlier (x :: xs), P p) ↔
      P ([], x) ∧ ∀ p ∈ withEarlier xs, P (x :: p.1, p.2) := by
  rw [withEarlier_cons, List.forall_mem_cons, List.forall_mem_map]

/-- A condition on single items does not depend on what comes before them. -/
theorem forall_mem_withEarlier_snd {P : α → Prop} (xs : List α) :
    (∀ p ∈ withEarlier xs, P p.2) ↔ ∀ x ∈ xs, P x := by
  induction xs with
  | nil => simp [withEarlier]
  | cons x xs ih => rw [forall_mem_withEarlier_cons, ih, List.forall_mem_cons]

/-- A relation holds between every two items if it holds between each item and those before it. -/
theorem forall_mem_withEarlier_iff_pairwise {R : α → α → Prop} {xs : List α} :
    (∀ p ∈ withEarlier xs, ∀ y ∈ p.1, R y p.2) ↔ xs.Pairwise R := by
  induction xs with
  | nil => simp [withEarlier]
  | cons x xs ih =>
      rw [forall_mem_withEarlier_cons, List.pairwise_cons, ← ih,
        ← forall_mem_withEarlier_snd (P := R x) xs]
      simp only [List.not_mem_nil, false_implies, implies_true, true_and, List.forall_mem_cons]
      exact forall₂_and

end WithEarlier

/-! ## The mistakes, address by address -/

/-- The entries of a group: its owners, its managers, its members. -/
def entries (g : GroupSpec) : List (Role × String) :=
  g.owners.map (.owner, ·) ++ g.managers.map (.manager, ·) ++ g.members.map (.member, ·)

/-- The mistake of an entry that has an equivalent among the earlier ones, of which the first one
counts. -/
def clash? (group : String) (earlier : List (Role × String)) (e : Role × String) :
    Option Problem :=
  (earlier.find? fun f => Email.equals f.2 e.2).map fun first =>
    if first.1 = e.1 then .duplicateMember group e.1 e.2
    else .conflictingRoles group e.2 e.1 first.1

/-- The mistakes of the entries of a group. -/
def clashes (g : GroupSpec) : List Problem :=
  (withEarlier (entries g)).filterMap fun p => clash? g.emailId p.1 p.2

/-- The mistake of a group with an address that has an equivalent among the earlier groups. -/
def groupClash (earlier : List GroupSpec) (g : GroupSpec) : List Problem :=
  if ∃ h ∈ earlier, h.emailId ≠ "" ∧ Email.equals h.emailId g.emailId = true then
    [.duplicateGroup g.emailId]
  else []

/-- The mistake of a description of more than 300 characters. -/
def lengthMistake (g : GroupSpec) : List Problem :=
  let length := g.description.toList.length
  if 300 < length then [.descriptionTooLong g.emailId length 300] else []

/-- The mistake of a choice of members that is neither on nor off. -/
def choiceMistake (g : GroupSpec) : List Problem :=
  match g.settings.get? "ReconcileMembers" with
  | none => []
  | some value =>
    if value = "true" ∨ value = "false" then []
    else [.invalidChoice g.emailId "ReconcileMembers" value]

/-- The mistakes of a group that comes after others. -/
def mistakes (earlier : List GroupSpec) (g : GroupSpec) : List Problem :=
  if g.emailId = "" then [.missingEmailId g.name]
  else groupClash earlier g ++ clashes g ++ lengthMistake g ++ choiceMistake g

/-- The mistakes of all groups, in their order. -/
def allMistakes (gs : List GroupSpec) : List Problem :=
  (withEarlier gs).flatMap fun p => mistakes p.1 p.2

/-- A roster without mistakes. -/
structure Valid (c : Roster) : Prop where
  named : ∀ g ∈ c.groups, g.emailId ≠ ""
  groups : c.groups.Pairwise fun g h => Email.equals g.emailId h.emailId = false
  members : ∀ g ∈ c.groups,
    (g.owners ++ g.managers ++ g.members).Pairwise fun a b => Email.equals a b = false
  descriptions : ∀ g ∈ c.groups, g.description.toList.length ≤ 300
  choices : ∀ g ∈ c.groups,
    g.settings.get? "ReconcileMembers" ∈ [none, some "true", some "false"]

/-! ## Remembered normal forms -/

/-- What is remembered of some entries tells which of them is the first that is equivalent to an
address. -/
def Remembers (earlier : List (Role × String)) (seen : List (String × Role)) : Prop :=
  ∀ email, (seen.find? (·.1 == Email.canonical email)).map (·.2) =
    (earlier.find? fun f => Email.equals f.2 email).map (·.1)

section Remembers

variable {earlier : List (Role × String)} {seen : List (String × Role)} {role : Role}
  {email : String}

theorem remembers_nil : Remembers [] [] :=
  fun _ => rfl

theorem Remembers.isNone_iff (h : Remembers earlier seen) :
    seen.find? (·.1 == Email.canonical email) = none ↔
      earlier.find? (fun f => Email.equals f.2 email) = none := by
  rw [← Option.map_eq_none_iff, h email, Option.map_eq_none_iff]

/-- An address that is new is remembered with its role. -/
theorem Remembers.new (h : Remembers earlier seen)
    (hnew : seen.find? (·.1 == Email.canonical email) = none) :
    Remembers (earlier ++ [(role, email)]) ((Email.canonical email, role) :: seen) := by
  intro email'
  rw [List.find?_append]
  by_cases heq : Email.canonical email = Email.canonical email'
  · have hequals : Email.equals email email' = true := (Email.equals_iff _ _).mpr heq
    have hnone := h.isNone_iff.mp (heq ▸ hnew)
    simp [hnone, heq, hequals]
  · have hequals : Email.equals email email' = false := equals_eq_false_iff.mpr heq
    simp [← h email', heq, hequals]

/-- Of an address that is not new nothing is remembered. -/
theorem Remembers.old (h : Remembers earlier seen)
    (hold : seen.find? (·.1 == Email.canonical email) ≠ none) :
    Remembers (earlier ++ [(role, email)]) seen := by
  intro email'
  rw [h email', List.find?_append]
  by_cases heq : Email.canonical email = Email.canonical email'
  · have hsome := mt h.isNone_iff.mpr (heq ▸ hold)
    obtain ⟨f, hf⟩ := Option.ne_none_iff_exists'.mp hsome
    simp [hf]
  · have hequals : Email.equals email email' = false := equals_eq_false_iff.mpr heq
    simp [hequals]

end Remembers

theorem memberProblems_eq {group : String} {earlier : List (Role × String)}
    {seen : List (String × Role)} (h : Remembers earlier seen) (es : List (Role × String)) :
    memberProblems group seen es =
      (withEarlier es).filterMap fun p => clash? group (earlier ++ p.1) p.2 := by
  induction es generalizing earlier seen with
  | nil => rfl
  | cons e es ih =>
      obtain ⟨role, email⟩ := e
      have hrest : (fun p : List (Role × String) × Role × String =>
          clash? group (earlier ++ ((role, email) :: p.1)) p.2) = fun p =>
            clash? group ((earlier ++ [(role, email)]) ++ p.1) p.2 := by
        simp
      rw [withEarlier_cons, List.filterMap_cons, List.filterMap_map, Function.comp_def, hrest,
        List.append_nil, memberProblems]
      cases hseen : seen.find? (·.1 == Email.canonical email) with
      | none =>
          have hhead : clash? group earlier (role, email) = none := by
            rw [clash?, h.isNone_iff.mp hseen, Option.map_none]
          simp only [hhead]
          exact ih (h.new hseen)
      | some s =>
          have hfirst := h email
          rw [hseen, Option.map_some] at hfirst
          obtain ⟨f, hf, hrole⟩ := Option.map_eq_some_iff.mp hfirst.symm
          have hhead : clash? group earlier (role, email) = some (if s.2 = role
              then .duplicateMember group role email
              else .conflictingRoles group email role s.2) := by
            rw [clash?, hf, Option.map_some, hrole]
          simp only [hhead]
          exact congrArg (List.cons _) (ih (h.old (by simp [hseen])))

theorem listed_eq_entries (g : GroupSpec) : listed g = entries g := by
  simp [listed, entries, Role.all, GroupSpec.emails]

theorem groupProblems_eq (g : GroupSpec) :
    groupProblems g = clashes g ++ lengthMistake g ++ choiceMistake g := by
  have hmembers : memberProblems g.emailId [] (listed g) = clashes g := by
    rw [memberProblems_eq remembers_nil, listed_eq_entries]
    rfl
  rw [groupProblems, hmembers]
  rfl

/-- The normal forms of the addresses of some groups. -/
def Holds (earlier : List GroupSpec) (seen : List String) : Prop :=
  ∀ a, Email.canonical a ∈ seen ↔ ∃ h ∈ earlier, h.emailId ≠ "" ∧ Email.equals h.emailId a = true

theorem holds_nil : Holds [] [] := by
  simp [Holds]

section Holds

variable {earlier : List GroupSpec} {seen seen' : List String} {g : GroupSpec}

theorem Holds.append (h : Holds earlier seen) (hseen : ∀ a, Email.canonical a ∈ seen' ↔
      Email.canonical a ∈ seen ∨ g.emailId ≠ "" ∧ Email.equals g.emailId a = true) :
    Holds (earlier ++ [g]) seen' := by
  intro a
  simp [hseen, h a, or_and_right, exists_or]

theorem Holds.blank (h : Holds earlier seen) (hblank : g.emailId = "") :
    Holds (earlier ++ [g]) seen :=
  h.append fun a => by simp [hblank]

theorem Holds.old (h : Holds earlier seen) (hold : Email.canonical g.emailId ∈ seen) :
    Holds (earlier ++ [g]) seen := by
  refine h.append fun a => ⟨.inl, ?_⟩
  rintro (ha | ⟨-, ha⟩)
  · exact ha
  · exact (Email.equals_iff _ _).mp ha ▸ hold

theorem Holds.new (h : Holds earlier seen) (hnamed : g.emailId ≠ "") :
    Holds (earlier ++ [g]) (Email.canonical g.emailId :: seen) := by
  refine h.append fun a => ?_
  rw [List.mem_cons, Email.equals_iff, eq_comm, or_comm]
  simp [hnamed]

end Holds

theorem problemsAfter_eq {earlier : List GroupSpec} {seen : List String} (h : Holds earlier seen)
    (gs : List GroupSpec) :
    problemsAfter seen gs = (withEarlier gs).flatMap fun p => mistakes (earlier ++ p.1) p.2 := by
  induction gs generalizing earlier seen with
  | nil => rfl
  | cons g gs ih =>
      have hrest : (fun p : List GroupSpec × GroupSpec => mistakes (earlier ++ g :: p.1) p.2) =
          fun p => mistakes ((earlier ++ [g]) ++ p.1) p.2 := by
        simp
      rw [withEarlier_cons, List.flatMap_cons, List.flatMap_map, hrest, List.append_nil,
        problemsAfter, mistakes, groupProblems_eq]
      by_cases hblank : g.emailId = ""
      · simp [hblank, ih (h.blank hblank)]
      · by_cases hold : Email.canonical g.emailId ∈ seen
        · have hclash : groupClash earlier g = [.duplicateGroup g.emailId] :=
            if_pos ((h g.emailId).mp hold)
          simp [hblank, hold, hclash, ih (h.old hold)]
        · have hclash : groupClash earlier g = [] := if_neg (mt (h g.emailId).mpr hold)
          simp [hblank, hold, hclash, ih (h.new hblank)]

/-- The mistakes that are found are those that come of comparing addresses. -/
theorem problems_eq_allMistakes (c : Roster) : problems c = allMistakes c.groups :=
  problemsAfter_eq holds_nil c.groups

/-! ## Rosters without mistakes -/

theorem clash?_eq_none_iff {group : String} {earlier : List (Role × String)}
    {e : Role × String} :
    clash? group earlier e = none ↔ ∀ f ∈ earlier, Email.equals f.2 e.2 = false := by
  simp [clash?]

theorem clashes_eq_nil_iff {g : GroupSpec} :
    clashes g = [] ↔
      (g.owners ++ g.managers ++ g.members).Pairwise fun a b => Email.equals a b = false := by
  have hentries : (entries g).map (·.2) = g.owners ++ g.managers ++ g.members := by
    simp [entries, Function.comp_def]
  rw [clashes, List.filterMap_eq_nil_iff, ← hentries, List.pairwise_map,
    ← forall_mem_withEarlier_iff_pairwise]
  simp only [clash?_eq_none_iff]

theorem lengthMistake_eq_nil_iff {g : GroupSpec} :
    lengthMistake g = [] ↔ g.description.toList.length ≤ 300 := by
  simp [lengthMistake]

theorem choiceMistake_eq_nil_iff {g : GroupSpec} :
    choiceMistake g = [] ↔
      g.settings.get? "ReconcileMembers" ∈ [none, some "true", some "false"] := by
  rw [choiceMistake]
  cases g.settings.get? "ReconcileMembers" with
  | none => simp
  | some value => simp [or_iff_not_imp_left]

theorem groupClash_eq_nil_iff {earlier : List GroupSpec} {g : GroupSpec} :
    groupClash earlier g = [] ↔
      ∀ h ∈ earlier, h.emailId ≠ "" → Email.equals h.emailId g.emailId = false := by
  simp [groupClash]

theorem mistakes_eq_nil_iff {earlier : List GroupSpec} {g : GroupSpec} :
    mistakes earlier g = [] ↔
      (∀ h ∈ earlier, h.emailId ≠ "" → Email.equals h.emailId g.emailId = false) ∧
        g.emailId ≠ "" ∧ clashes g = [] ∧ lengthMistake g = [] ∧ choiceMistake g = [] := by
  rw [mistakes, ← groupClash_eq_nil_iff]
  by_cases hblank : g.emailId = ""
  · simp [hblank]
  · simp [hblank]

theorem allMistakes_eq_nil_iff {gs : List GroupSpec} :
    allMistakes gs = [] ↔
      gs.Pairwise (fun h g => h.emailId ≠ "" → Email.equals h.emailId g.emailId = false) ∧
        ∀ g ∈ gs, g.emailId ≠ "" ∧ clashes g = [] ∧ lengthMistake g = [] ∧
          choiceMistake g = [] := by
  rw [← forall_mem_withEarlier_iff_pairwise, ← forall_mem_withEarlier_snd gs,
    ← forall₂_and, allMistakes, List.flatMap_eq_nil_iff]
  exact forall₂_congr fun _ _ => mistakes_eq_nil_iff

theorem valid_iff {c : Roster} : Valid c ↔ allMistakes c.groups = [] := by
  rw [allMistakes_eq_nil_iff]
  simp only [clashes_eq_nil_iff, lengthMistake_eq_nil_iff, choiceMistake_eq_nil_iff]
  constructor
  · intro h
    refine ⟨h.groups.imp ?_, fun g hg => ?_⟩
    · exact fun hne _ => hne
    · exact ⟨h.named g hg, h.members g hg, h.descriptions g hg, h.choices g hg⟩
  · rintro ⟨hgroups, hgs⟩
    refine ⟨fun g hg => (hgs g hg).1, ?_, fun g hg => (hgs g hg).2.1,
      fun g hg => (hgs g hg).2.2.1, fun g hg => (hgs g hg).2.2.2⟩
    exact hgroups.imp_of_mem fun hg _ hne => hne (hgs _ hg).1

/-- A roster is accepted exactly if it is valid, and otherwise the mistakes of all its groups are
reported, in their order. -/
theorem validate_exact (c : Roster) :
    (validate c = .ok () ↔ Valid c) ∧
      (validate c = .ok () ∨
        validate c = .error ⟨(allMistakes c.groups).map fun p => .because (.problem p)⟩) := by
  have hleaves : Failures.ofList ((problems c).map fun p => .because (.problem p)) =
      ⟨(allMistakes c.groups).map fun p => .because (.problem p)⟩ := by
    refine Failures.ext_toList ?_
    rw [Failures.toList_ofList, problems_eq_allMistakes, List.flatMap_map]
    exact List.flatMap_pure_eq_map _ _
  rw [valid_iff, validate, hleaves]
  refine ⟨?_, ?_⟩
  · rw [Failures.result_eq_ok_iff, Failures.eq_none_iff, List.map_eq_nil_iff]
  · exact or_iff_not_imp_left.mpr Failures.result_eq_error_of_ne

/-- An entry is judged by the first one that is equivalent to it. -/
example : allMistakes [{ GroupSpec.blank with
      emailId := "team@x.io", owners := ["ann@x.io"]
      members := ["bob@x.io", "Bob@x.io", "a.nn@x.io"] }] =
    [.duplicateMember "team@x.io" .member "Bob@x.io",
      .conflictingRoles "team@x.io" "a.nn@x.io" .member .owner] := by
  decide +kernel

end GroupKeeper.Validation
