import GroupKeeper.Proofs.Validation

/-! The groups that are left to reconcile once duplicates are passed over: a part of the list in the
same order, with every group that has no address, and with different addresses otherwise. Each group
that is passed over has an equivalent among them. -/

namespace GroupKeeper.Reconcile

variable {seen : List String} {g : GroupSpec} {gs : List GroupSpec}

/-! ## One group -/

theorem partitionDuplicates_of_blank (h : g.emailId = "") :
    (partitionDuplicates seen (g :: gs)).1 = g :: (partitionDuplicates seen gs).1 := by
  simp [partitionDuplicates, h]

theorem partitionDuplicates_of_seen (h : g.emailId ≠ "")
    (hseen : Email.canonical g.emailId ∈ seen) :
    (partitionDuplicates seen (g :: gs)).1 = (partitionDuplicates seen gs).1 := by
  simp [partitionDuplicates, h, hseen]

theorem partitionDuplicates_of_fresh (h : g.emailId ≠ "")
    (hseen : Email.canonical g.emailId ∉ seen) :
    (partitionDuplicates seen (g :: gs)).1 =
      g :: (partitionDuplicates (Email.canonical g.emailId :: seen) gs).1 := by
  simp [partitionDuplicates, h, hseen]

/-! ## All groups -/

theorem partitionDuplicates_sublist (seen : List String) (gs : List GroupSpec) :
    (partitionDuplicates seen gs).1.Sublist gs := by
  induction gs generalizing seen with
  | nil => exact .refl _
  | cons g gs ih =>
      by_cases hblank : g.emailId = ""
      · rw [partitionDuplicates_of_blank hblank]
        exact (ih seen).cons_cons g
      · by_cases hseen : Email.canonical g.emailId ∈ seen
        · rw [partitionDuplicates_of_seen hblank hseen]
          exact (ih seen).cons g
        · rw [partitionDuplicates_of_fresh hblank hseen]
          exact (ih _).cons_cons g

theorem dedup_sublist (gs : List GroupSpec) : (dedup gs).Sublist gs :=
  partitionDuplicates_sublist [] gs

theorem filter_partitionDuplicates (seen : List String) (gs : List GroupSpec) :
    (partitionDuplicates seen gs).1.filter (·.emailId.isEmpty) =
      gs.filter (·.emailId.isEmpty) := by
  induction gs generalizing seen with
  | nil => rfl
  | cons g gs ih =>
      by_cases hblank : g.emailId = ""
      · simp [partitionDuplicates_of_blank hblank, hblank, ih]
      · by_cases hseen : Email.canonical g.emailId ∈ seen
        · simp [partitionDuplicates_of_seen hblank hseen, hblank, ih]
        · simp [partitionDuplicates_of_fresh hblank hseen, hblank, ih]

/-- A group without an address is never passed over. -/
theorem filter_dedup (gs : List GroupSpec) :
    (dedup gs).filter (·.emailId.isEmpty) = gs.filter (·.emailId.isEmpty) :=
  filter_partitionDuplicates [] gs

/-- Groups that have addresses, if at all, that name different groups. -/
def Separate (g h : GroupSpec) : Prop :=
  g.emailId ≠ "" → h.emailId ≠ "" → Email.equals g.emailId h.emailId = false

theorem pairwise_partitionDuplicates (seen : List String) (gs : List GroupSpec) :
    (partitionDuplicates seen gs).1.Pairwise Separate ∧
      ∀ g ∈ (partitionDuplicates seen gs).1, g.emailId ≠ "" →
        Email.canonical g.emailId ∉ seen := by
  induction gs generalizing seen with
  | nil => exact ⟨.nil, by simp [partitionDuplicates]⟩
  | cons g gs ih =>
      by_cases hblank : g.emailId = ""
      · obtain ⟨hpairwise, hfresh⟩ := ih seen
        rw [partitionDuplicates_of_blank hblank]
        refine ⟨List.pairwise_cons.mpr ⟨fun h _ hg => absurd hblank hg, hpairwise⟩, ?_⟩
        exact List.forall_mem_cons.mpr ⟨fun hg => absurd hblank hg, hfresh⟩
      · by_cases hseen : Email.canonical g.emailId ∈ seen
        · rw [partitionDuplicates_of_seen hblank hseen]
          exact ih seen
        · obtain ⟨hpairwise, hfresh⟩ := ih (Email.canonical g.emailId :: seen)
          rw [partitionDuplicates_of_fresh hblank hseen]
          refine ⟨List.pairwise_cons.mpr ⟨fun h hh _ hnamed => ?_, hpairwise⟩, ?_⟩
          · have hne := hfresh h hh hnamed
            rw [List.mem_cons, not_or] at hne
            exact Validation.equals_eq_false_iff.mpr (Ne.symm hne.1)
          · refine List.forall_mem_cons.mpr ⟨fun _ => hseen, fun h hh hnamed => ?_⟩
            exact fun hmem => hfresh h hh hnamed (List.mem_cons_of_mem _ hmem)

/-- No two groups that are left have equivalent addresses. -/
theorem pairwise_dedup (gs : List GroupSpec) : (dedup gs).Pairwise Separate :=
  (pairwise_partitionDuplicates [] gs).1

theorem partitionDuplicates_of_separate (hgs : gs.Pairwise Separate)
    (hseen : ∀ g ∈ gs, g.emailId ≠ "" → Email.canonical g.emailId ∉ seen) :
    partitionDuplicates seen gs = (gs, []) := by
  induction gs generalizing seen with
  | nil => rfl
  | cons g gs ih =>
      obtain ⟨hhead, hgs⟩ := List.pairwise_cons.mp hgs
      obtain ⟨hg, hrest⟩ := List.forall_mem_cons.mp hseen
      by_cases hblank : g.emailId = ""
      · simp [partitionDuplicates, hblank, ih hgs hrest]
      · have hnext : ∀ h ∈ gs, h.emailId ≠ "" →
            Email.canonical h.emailId ∉ Email.canonical g.emailId :: seen := by
          intro h hh hnamed
          have hne := Validation.equals_eq_false_iff.mp (hhead h hh hblank hnamed)
          simp [Ne.symm hne, hrest h hh hnamed]
        simp [partitionDuplicates, hblank, hg hblank, ih hgs hnext]

/-- Passing over duplicates leaves none. -/
theorem partitionDuplicates_dedup (gs : List GroupSpec) :
    partitionDuplicates [] (dedup gs) = (dedup gs, []) :=
  partitionDuplicates_of_separate (pairwise_dedup gs) (by simp)

/-- Of distinct groups none is passed over. -/
theorem dedup_of_distinct (h : Distinct gs) : dedup gs = gs := by
  have hgs : gs.Pairwise Separate := h.groups.imp fun hne _ _ => hne
  rw [dedup, partitionDuplicates_of_separate hgs (by simp)]

/-- Every group has an equivalent among those that are left, unless its address was seen before. -/
theorem exists_mem_partitionDuplicates (seen : List String) (gs : List GroupSpec) :
    ∀ g ∈ gs, (∃ h ∈ (partitionDuplicates seen gs).1, Email.equals h.emailId g.emailId = true) ∨
      Email.canonical g.emailId ∈ seen := by
  induction gs generalizing seen with
  | nil => simp
  | cons g gs ih =>
      by_cases hblank : g.emailId = ""
      · rw [partitionDuplicates_of_blank hblank]
        refine List.forall_mem_cons.mpr ⟨.inl ⟨g, by simp, Email.equals_refl _⟩, ?_⟩
        intro g' hg'
        refine (ih seen g' hg').imp_left fun ⟨h, hh, heq⟩ => ⟨h, by simp [hh], heq⟩
      · by_cases hseen : Email.canonical g.emailId ∈ seen
        · rw [partitionDuplicates_of_seen hblank hseen]
          exact List.forall_mem_cons.mpr ⟨.inr hseen, ih seen⟩
        · rw [partitionDuplicates_of_fresh hblank hseen]
          refine List.forall_mem_cons.mpr ⟨.inl ⟨g, by simp, Email.equals_refl _⟩, ?_⟩
          intro g' hg'
          rcases ih (Email.canonical g.emailId :: seen) g' hg' with ⟨h, hh, heq⟩ | hform
          · exact .inl ⟨h, by simp [hh], heq⟩
          · rcases List.mem_cons.mp hform with hform | hform
            · exact .inl ⟨g, by simp, (Email.equals_iff _ _).mpr hform.symm⟩
            · exact .inr hform

/-- Every group has an equivalent among those that are left. -/
theorem exists_mem_dedup {g : GroupSpec} (hg : g ∈ gs) :
    ∃ h ∈ dedup gs, Email.equals h.emailId g.emailId = true := by
  rcases exists_mem_partitionDuplicates [] gs g hg with h | h
  · exact h
  · simp at h

end GroupKeeper.Reconcile
