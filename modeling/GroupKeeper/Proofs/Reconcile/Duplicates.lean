import GroupKeeper.Proofs.Lists
import GroupKeeper.Proofs.Reconcile.Dedup
import GroupKeeper.Proofs.Reconcile.Reports
import GroupKeeper.Proofs.Validation.Exact

/-! Groups that are listed more than once do not matter. Those that are passed over are the ones
that the check of the roster reports, and a run without them is the same run: the same groups are
reconciled in the same order, and the same groups of the directory are found to be wanted. -/

namespace GroupKeeper

/-! ## Groups that the check reports -/

namespace Validation

/-- What the check of a list of groups finds only once another group is added at its end. -/
def found (earlier : List GroupSpec) (g : GroupSpec) : List Problem :=
  (problems ⟨earlier ++ [g]⟩).drop (problems ⟨earlier⟩).length

/-- Whether the check reports a group that comes after others as listed more than once. -/
def reportsDuplicate (earlier : List GroupSpec) (g : GroupSpec) : Bool :=
  .duplicateGroup g.emailId ∈ found earlier g

/-- The groups that the check does not report as listed more than once. -/
def withoutReported (gs : List GroupSpec) : List GroupSpec :=
  ((withEarlier gs).filter fun p => !reportsDuplicate p.1 p.2).map (·.2)

/-- The groups that the check reports as listed more than once. -/
def onlyReported (gs : List GroupSpec) : List GroupSpec :=
  ((withEarlier gs).filter fun p => reportsDuplicate p.1 p.2).map (·.2)

section Reported

variable {earlier gs : List GroupSpec} {g : GroupSpec}

theorem withEarlier_append_singleton {α : Type} (xs : List α) (x : α) :
    withEarlier (xs ++ [x]) = withEarlier xs ++ [(xs, x)] := by
  induction xs with
  | nil => rfl
  | cons y ys ih => simp [withEarlier_cons, ih]

theorem found_eq_mistakes (earlier : List GroupSpec) (g : GroupSpec) :
    found earlier g = mistakes earlier g := by
  have hsplit : problems ⟨earlier ++ [g]⟩ = problems ⟨earlier⟩ ++ mistakes earlier g := by
    simp [problems_eq_allMistakes, allMistakes, withEarlier_append_singleton]
  rw [found, hsplit, List.drop_left]

/-- The check reports what it finds of each group after those before it. -/
theorem problems_eq_found (gs : List GroupSpec) :
    problems ⟨gs⟩ = (withEarlier gs).flatMap fun p => found p.1 p.2 := by
  simp only [problems_eq_allMistakes, found_eq_mistakes, allMistakes]

theorem duplicateGroup_notMem_clashes (a : String) : .duplicateGroup a ∉ clashes g := by
  intro h
  obtain ⟨p, -, hclash⟩ := List.mem_filterMap.mp h
  obtain ⟨first, -, hproblem⟩ := Option.map_eq_some_iff.mp hclash
  split at hproblem <;> contradiction

theorem duplicateGroup_notMem_lengthMistake (a : String) :
    .duplicateGroup a ∉ lengthMistake g := by
  simp only [lengthMistake]
  split <;> simp

theorem duplicateGroup_notMem_choiceMistake (a : String) :
    .duplicateGroup a ∉ choiceMistake g := by
  simp only [choiceMistake]
  split
  · simp
  · split <;> simp

/-- The check reports a group if an equivalent one comes before it. -/
theorem reportsDuplicate_iff : reportsDuplicate earlier g = true ↔ g.emailId ≠ "" ∧
    ∃ h ∈ earlier, h.emailId ≠ "" ∧ Email.equals h.emailId g.emailId = true := by
  rw [reportsDuplicate, decide_eq_true_iff, found_eq_mistakes, mistakes]
  by_cases hblank : g.emailId = ""
  · simp [hblank]
  · simp [hblank, groupClash, duplicateGroup_notMem_clashes, duplicateGroup_notMem_lengthMistake,
      duplicateGroup_notMem_choiceMistake]

theorem Holds.reportsDuplicate_eq {seen : List String} (h : Holds earlier seen)
    (hnamed : g.emailId ≠ "") :
    reportsDuplicate earlier g = seen.contains (Email.canonical g.emailId) := by
  rw [Bool.eq_iff_iff, reportsDuplicate_iff, List.contains_iff_mem, h g.emailId]
  simp [hnamed]

end Reported

end Validation

namespace Reconcile

open Program Validation

section Groups

variable {gs : List GroupSpec} {g : GroupSpec}

/-- Passing over duplicates and checking a roster go by the same remembered normal forms. -/
theorem partitionDuplicates_eq {earlier : List GroupSpec} {seen : List String}
    (h : Holds earlier seen) (gs : List GroupSpec) : partitionDuplicates seen gs =
      (((withEarlier gs).filter fun p => !reportsDuplicate (earlier ++ p.1) p.2).map (·.2),
        ((withEarlier gs).filter fun p => reportsDuplicate (earlier ++ p.1) p.2).map (·.2)) := by
  induction gs generalizing earlier seen with
  | nil => rfl
  | cons g gs ih =>
      have hmove : ∀ p : List GroupSpec × GroupSpec,
          reportsDuplicate (earlier ++ g :: p.1) p.2 =
            reportsDuplicate ((earlier ++ [g]) ++ p.1) p.2 := by simp
      rw [withEarlier_cons, partitionDuplicates]
      simp only [List.filter_cons, List.filter_map, Function.comp_def, List.append_nil, hmove]
      by_cases hblank : g.emailId = ""
      · have hkept : reportsDuplicate earlier g = false := by
          rw [Bool.eq_false_iff]
          exact fun hreported => (reportsDuplicate_iff.mp hreported).1 hblank
        simp [hblank, hkept, ih (h.blank hblank), Function.comp_def]
      · rw [h.reportsDuplicate_eq hblank]
        by_cases hold : Email.canonical g.emailId ∈ seen
        · simp [hblank, hold, ih (h.old hold), Function.comp_def]
        · simp [hblank, hold, ih (h.new hblank), Function.comp_def]

theorem dedup_eq_withoutReported (gs : List GroupSpec) : dedup gs = withoutReported gs := by
  rw [dedup, partitionDuplicates_eq holds_nil]
  rfl

theorem duplicates_eq_onlyReported (gs : List GroupSpec) : duplicates gs = onlyReported gs := by
  rw [duplicates, partitionDuplicates_eq holds_nil]
  rfl

@[simp] theorem dedup_dedup (gs : List GroupSpec) : dedup (dedup gs) = dedup gs := by
  rw [dedup, partitionDuplicates_dedup]

@[simp] theorem duplicates_dedup (gs : List GroupSpec) : duplicates (dedup gs) = [] := by
  rw [duplicates, partitionDuplicates_dedup]

/-- A group of the directory with an equivalent among the duplicates has one among the others. -/
theorem orphans_dedup (gs : List GroupSpec) (current : List Group) :
    orphans (dedup gs) current = orphans gs current := by
  refine List.filter_congr fun x _ => congrArg _ ?_
  rw [Bool.eq_iff_iff, List.any_eq_true, List.any_eq_true]
  constructor
  · rintro ⟨g, hg, heq⟩
    exact ⟨g, (dedup_sublist gs).subset hg, heq⟩
  · rintro ⟨g, hg, heq⟩
    obtain ⟨h, hh, hsame⟩ := exists_mem_dedup hg
    exact ⟨h, hh, Email.equals_trans hsame heq⟩

theorem deleteOrphans_dedup (mode : Mode) (gs : List GroupSpec) :
    deleteOrphans mode (dedup gs) = deleteOrphans mode gs := by
  simp only [deleteOrphans, orphans_dedup]

theorem opening_dedup (workers : Nat) (gs : List GroupSpec) :
    opening workers gs =
      (duplicates gs).map (.duplicateSkipped ·.emailId) ++ opening workers (dedup gs) := by
  simp [opening, flight]

end Groups

/-! ## Runs -/

section Runs

variable {σ : Type} (client : Client σ) (mode : Mode) (workers delay : Nat) (deadline : Option Nat)
  (gs : List GroupSpec) (s : σ)

/-- A run without the duplicates differs in the events that say which groups are passed over, and in
nothing else. -/
theorem reconcileTimed_dedup :
    let full := reconcileTimed client delay deadline mode workers gs s
    let less := reconcileTimed client delay deadline mode workers (dedup gs) s
    full.state = less.state ∧ full.value = less.value ∧
      full.events = (duplicates gs).map (.duplicateSkipped ·.emailId) ++ less.events := by
  have hflight : flight workers (dedup gs) = flight workers gs := by simp [flight]
  have hjobs : jobs mode (dedup gs) = jobs mode gs := by simp [jobs]
  simp only [reconcileTimed, hflight, hjobs, deleteOrphans_dedup]
  rw [opening_dedup]
  split <;> simp

/-- A failure that says of a group that it has no address. -/
def MissingAddress (f : Failure) : Prop :=
  ∃ name, f.cause? = some (.problem (.missingEmailId name))

/-- Where every group has an address, only an answer to a call can say that one has none. -/
theorem exists_of_missingAddress {mode : Mode} {gs : List GroupSpec} {noted : List FailedCall}
    {fs : List Failure} (h : Complete mode gs noted fs) (hgs : missingAddresses gs = [])
    {f : Failure} (hf : f ∈ fs) (hmissing : MissingAddress f) :
    ∃ x ∈ noted, ∃ leaf ∈ x.failure.leaves, MissingAddress leaf := by
  obtain ⟨told, hfs, hnoted⟩ := h
  rw [hgs, List.nil_append] at hfs
  obtain ⟨t, ht, hleaf⟩ := List.mem_flatMap.mp (hfs.subset hf)
  obtain ⟨x, hx, context, rfl⟩ : ∃ x ∈ noted.filter (reported mode), TellsOf t x :=
    exists_of_forall₂ hnoted.flip t ht
  refine ⟨x, (List.mem_filter.mp hx).1, ?_⟩
  rw [Failure.leaves, Failure.several?] at hleaf
  rw [Failure.leaves]
  cases hseveral : x.failure.several? with
  | some leaves =>
      rw [hseveral] at hleaf
      exact ⟨f, hleaf, hmissing⟩
  | none =>
      rw [hseveral] at hleaf
      obtain rfl := List.mem_singleton.mp hleaf
      exact ⟨x.failure, List.mem_singleton_self _, hmissing⟩

/-- A run without the groups that the check reports as listed more than once makes the same calls in
the same order, ends in the same state with the same failures, and logs the same but for the groups
that are passed over, whatever clients answer and whether the run ends. For a checked roster there
are no such groups, and a run reports no group as having no address unless an answer does. -/
theorem reconcileTimed_withoutReported {σ : Type} (client : Client σ) (mode : Mode)
    (workers delay : Nat) (deadline : Option Nat) (gs : List GroupSpec) (s : σ) :
    let full := reconcileTimed client.recorded delay deadline mode workers gs (s, [])
    let less :=
      reconcileTimed client.recorded delay deadline mode workers (withoutReported gs) (s, [])
    full.state = less.state ∧ full.value = less.value ∧
    full.events = (onlyReported gs).map (.duplicateSkipped ·.emailId) ++ less.events ∧
    (validate ⟨gs⟩ = .ok () → (onlyReported gs = [] ∧ dedup gs = gs) ∧
      ∀ fs, full.value = some fs → ∀ f ∈ fs.toList, MissingAddress f →
        ∃ c t f', (client c t).1 = .error f' ∧ ∃ leaf ∈ f'.leaves, MissingAddress leaf) := by
  intro full less
  obtain ⟨hstate, hvalue, hevents⟩ :=
    reconcileTimed_dedup client.recorded mode workers delay deadline gs (s, [])
  rw [dedup_eq_withoutReported] at hstate hvalue hevents
  rw [duplicates_eq_onlyReported] at hevents
  refine ⟨hstate, hvalue, hevents, fun hvalid => ?_⟩
  have hgs : Distinct gs := distinct_of_validate hvalid
  have hseparate : gs.Pairwise Separate := hgs.groups.imp fun hne _ _ => hne
  have hnamed : missingAddresses gs = [] := by
    rw [missingAddresses, List.map_eq_nil_iff, List.filter_eq_nil_iff]
    intro g hg
    simpa using (hgs.members g hg).named
  refine ⟨⟨?_, dedup_of_distinct hgs⟩, ?_⟩
  · rw [← duplicates_eq_onlyReported, duplicates,
      partitionDuplicates_of_separate hseparate (by simp)]
  · intro fs hfs f hf hmissing
    obtain ⟨-, hperm⟩ := reconcileTimed_completed hfs
    obtain ⟨x, hx, leaf, hleaf⟩ := exists_of_missingAddress
      ((allRuns_reconcileGroups mode workers gs).run client.recorded (s, [])) hnamed
      (hperm.subset hf) hmissing
    obtain ⟨t, hreply⟩ := exists_reply_of_mem_failed hx
    exact ⟨x.call, t.1, x.failure, hreply, leaf, hleaf⟩

/-- A group that is listed under two spellings, with another one in between. -/
def twiceListed : List GroupSpec := [
  { GroupSpec.blank with emailId := "Team@x.io", owners := ["ann@x.io"] },
  { GroupSpec.blank with emailId := "new@x.io" },
  { GroupSpec.blank with emailId := "te.am@x.io", owners := ["bob@x.io"] }]

/-- The second spelling is passed over and does not matter. In the sample roster there is none. -/
theorem twiceListed_withoutReported :
    onlyReported sampleRoster.groups = [] ∧ dedup sampleRoster.groups = sampleRoster.groups ∧
    let full := reconcileTimed Directory.client.recorded 3 none (Directory.mode true) 2 twiceListed
      (sampleDirectory, [])
    let less := reconcileTimed Directory.client.recorded 3 none (Directory.mode true) 2
      (twiceListed.take 2) (sampleDirectory, [])
    full.state = less.state ∧ full.value = less.value ∧
      full.events = .duplicateSkipped "te.am@x.io" :: less.events := by
  obtain ⟨-, -, -, hvalid⟩ := reconcileTimed_withoutReported Directory.client
    (Directory.mode true) 2 3 none sampleRoster.groups sampleDirectory
  obtain ⟨⟨hnone, hall⟩, -⟩ := hvalid validate_sampleRoster
  have hless : withoutReported twiceListed = twiceListed.take 2 := by decide +kernel
  have honly : onlyReported twiceListed = twiceListed.drop 2 := by decide +kernel
  obtain ⟨hstate, hvalue, hevents, -⟩ := reconcileTimed_withoutReported Directory.client
    (Directory.mode true) 2 3 none twiceListed sampleDirectory
  rw [hless] at hstate hvalue hevents
  rw [honly] at hevents
  exact ⟨hnone, hall, hstate, hvalue, hevents⟩

end Runs

end Reconcile

end GroupKeeper
