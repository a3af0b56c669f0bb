import GroupKeeper.Proofs.Directory.Identity
import GroupKeeper.Proofs.Reconcile.Convergence
import GroupKeeper.Proofs.Reconcile.Coupling
import GroupKeeper.Proofs.Reconcile.Dedup

/-! Groups that are reconciled at the same time do not interfere. Whatever the order of the single
calls is, each job reports what it would report alone and leaves its group as it would alone, but
for the ids that are given out on the way. -/

namespace GroupKeeper

open Directory Program

namespace Directory

/-! ## Ids left out -/

/-- An id as it is, if a directory held it before, and else no id. -/
def kept (d : Directory) (i : String) : String :=
  if i ∈ d.ids then i else ""

/-- What a directory holds, without the ids that an earlier one does not hold. The number of ids
that were given out and the record of the calls are left out as well. -/
def withoutNewIds (before d : Directory) : Directory :=
  { d with groups := d.groups.mapValues (·.rename before.kept), calls := [], lastId := 0 }

section WithoutNewIds

variable {d t t' : Directory} {ρ : String → String} {a : String}

/-- A renaming of new ids is not seen once they are left out. -/
theorem Mirrors.rename_kept {before : Directory} (hbefore : WellFormed before)
    (h : Mirrors before.lastId ρ a d t) :
    (t.find? a).map (·.rename before.kept) = (d.find? a).map (·.rename before.kept) := by
  rw [h.entry, Option.map_map]
  refine Option.map_congr fun e he => ?_
  rw [Function.comp_apply, e.rename_rename]
  refine DirectoryEntry.rename_congr fun i hi => ?_
  have hissued : Issued d.lastId i := h.wellFormed.issued _ e he i hi
  rw [Function.comp_apply]
  by_cases hold : Issued before.lastId i
  · rw [h.renames.old i hold]
  · have hi : i ∉ before.ids := fun hmem => hold (hbefore.issued_of_mem_ids hmem)
    have hρ : ρ i ∉ before.ids := fun hmem =>
      h.renames.not_issued hissued hold (hbefore.issued_of_mem_ids hmem)
    rw [kept, kept, if_neg hi, if_neg hρ]

theorem withoutNewIds_congr (hgroups : ∀ k, (t.groups.get? k).map (·.rename d.kept) =
      (t'.groups.get? k).map (·.rename d.kept))
    (hfaults : SameFaults t t') (hdelay : t'.lookupDelay = t.lookupDelay) :
    withoutNewIds d t = withoutNewIds d t' := by
  have hsame : t.groups.mapValues (·.rename d.kept) = t'.groups.mapValues (·.rename d.kept) := by
    refine Dictionary.ext_get? fun k => ?_
    rw [Dictionary.get?_mapValues, Dictionary.get?_mapValues, hgroups k]
  rw [withoutNewIds, withoutNewIds, hsame, hfaults.members, hfaults.groups, hfaults.list, hdelay]

end WithoutNewIds

end Directory

namespace Reconcile

section Jobs

variable {mode : Mode} {gs : List GroupSpec} {g : GroupSpec} {d : Directory} {order : List Nat}

/-! ## Jobs that take turns -/

/-- A call about the group at a place, if it has an address. -/
def Concerns (gs : List GroupSpec) (i : Nat) (c : Call) : Prop :=
  ∃ g, gs[i]? = some g ∧ g.emailId ≠ "" ∧ c.target? = some g.emailId

theorem reconcileGroup_of_blank (hblank : g.emailId = "") (mode : Mode) :
    reconcileGroup mode g = Pure.pure (.of (.because (.problem (.missingEmailId g.name)))) := by
  rw [reconcileGroup, hblank]
  rfl

theorem allCallsAt_jobs (mode : Mode) (gs : List GroupSpec) :
    AllCallsAt (Concerns (dedup gs)) (jobs mode gs) := by
  intro i p hp
  rw [jobs, List.getElem?_map, Option.map_eq_some_iff] at hp
  obtain ⟨g, hg, rfl⟩ := hp
  by_cases hblank : g.emailId = ""
  · rw [reconcileGroup_of_blank hblank]
    exact allCalls_pure _
  · exact (allCalls_reconcileGroup mode g).mono fun c hc => ⟨g, hg, hblank, hc.1⟩

/-- The calls about the group at another place are about another group. -/
theorem Concerns.beside {i j : Nat} {c : Call} (hc : Concerns (dedup gs) i c) (hne : i ≠ j)
    (hg : (dedup gs)[j]? = some g) (hnamed : g.emailId ≠ "") : Beside g.emailId c := by
  obtain ⟨h, hh, hhnamed, htarget⟩ := hc
  refine ⟨h.emailId, htarget, fun heq => ?_⟩
  obtain ⟨hi, rfl⟩ := List.getElem?_eq_some_iff.mp hh
  obtain ⟨hj, rfl⟩ := List.getElem?_eq_some_iff.mp hg
  have hseparate := List.pairwise_iff_getElem.mp (pairwise_dedup gs)
  rcases Nat.lt_or_gt_of_ne hne with hlt | hgt
  · simpa [Directory.equals_of_key_eq heq] using hseparate i j hi hj hlt hhnamed hnamed
  · simpa [Directory.equals_of_key_eq heq.symm] using hseparate j i hj hi hgt hnamed hhnamed

section Interleave

variable {p : Program Failures} {fs : Failures} {j : Nat}

/-- A job that has ended amid the others has done what it does alone. -/
theorem mirrors_interleave (hd : WellFormed d) (hg : (dedup gs)[j]? = some g)
    (hnamed : g.emailId ≠ "") (hp : (interleave client order (jobs mode gs) d).1[j]? = some p)
    (hended : p.value? = some fs) :
    fs = ((reconcileGroup mode g).run client d).value ∧
      ∃ ρ, Mirrors d.lastId ρ g.emailId ((reconcileGroup mode g).run client d).state
        (interleave client order (jobs mode gs) d).2 := by
  have hjob : (jobs mode gs)[j]? = some (reconcileGroup mode g) := by
    rw [jobs, List.getElem?_map, hg, Option.map_some]
  have hamid : (reconcileGroup mode g).Amid client (Elsewhere g.emailId) d fs
      (interleave client order (jobs mode gs) d).2 := by
    refine (amid_interleave (allCallsAt_jobs mode gs) hjob order hp hended).mono ?_
    rintro s _ ⟨i, c, hne, hc, rfl⟩
    exact ⟨c, hc.beside hne hg hnamed, rfl⟩
  obtain ⟨ρ, hmirrors, hvalue, -⟩ :=
    couples_reconcileGroup mode g id d d fs _ (.refl hd g.emailId) trivial hamid
  exact ⟨hvalue.symm, ρ, hmirrors⟩

theorem value_interleave (hd : WellFormed d) (hg : (dedup gs)[j]? = some g)
    (hp : (interleave client order (jobs mode gs) d).1[j]? = some p) (hended : p.value? = some fs) :
    fs = ((reconcileGroup mode g).run client d).value := by
  by_cases hblank : g.emailId = ""
  · have hjob : (jobs mode gs)[j]? = some (reconcileGroup mode g) := by
      rw [jobs, List.getElem?_map, hg, Option.map_some]
    have hamid := amid_interleave (allCallsAt_jobs mode gs) hjob order hp hended
    rw [reconcileGroup_of_blank hblank] at hamid ⊢
    exact hamid.1
  · exact (mirrors_interleave hd hg hblank hp hended).1

/-- A group that is the business of no job is left alone. -/
theorem get?_interleave (mode : Mode) (gs : List GroupSpec) (order : List Nat) (d : Directory)
    {k : String} (hk : ∀ g ∈ dedup gs, g.emailId ≠ "" → k ≠ key g.emailId) :
    (interleave client order (jobs mode gs) d).2.groups.get? k = d.groups.get? k := by
  refine interleave_invariant (I := fun t : Directory => t.groups.get? k = d.groups.get? k)
    (allCallsAt_jobs mode gs) (fun i c t hc ht => ?_) rfl order
  obtain ⟨g, hg, hnamed, htarget⟩ := hc
  rw [get?_client_of_ne htarget (hk g (List.mem_of_getElem? hg) hnamed), ht]

end Interleave

/-! ## Any two orders -/

/-- Every job makes its last call. -/
def Ends (mode : Mode) (gs : List GroupSpec) (d : Directory) (order : List Nat) : Prop :=
  ∀ p ∈ (interleave client order (jobs mode gs) d).1, p.value?.isSome

section Orders

variable {order' : List Nat}

theorem Ends.exists_value (h : Ends mode gs d order) {j : Nat} (hg : (dedup gs)[j]? = some g) :
    ∃ p fs, (interleave client order (jobs mode gs) d).1[j]? = some p ∧ p.value? = some fs := by
  have hj : j < (interleave client order (jobs mode gs) d).1.length := by
    rw [length_interleave, jobs, List.length_map]
    exact (List.getElem?_eq_some_iff.mp hg).1
  obtain ⟨fs, hfs⟩ := Option.isSome_iff_exists.mp (h _ (List.getElem_mem hj))
  exact ⟨_, fs, List.getElem?_eq_getElem hj, hfs⟩

/-- Each job reports what it reports alone. -/
theorem values_interleave (hd : WellFormed d) (h : Ends mode gs d order) :
    (interleave client order (jobs mode gs) d).1.map value? =
      (dedup gs).map fun g => some ((reconcileGroup mode g).run client d).value := by
  refine List.ext_getElem? fun j => ?_
  rw [List.getElem?_map, List.getElem?_map]
  cases hg : (dedup gs)[j]? with
  | none =>
      have hj : (interleave client order (jobs mode gs) d).1[j]? = none := by
        rw [List.getElem?_eq_none_iff, length_interleave, jobs, List.length_map]
        exact List.getElem?_eq_none_iff.mp hg
      rw [hj]
      rfl
  | some g =>
      obtain ⟨p, fs, hp, hfs⟩ := h.exists_value hg
      rw [hp, Option.map_some, Option.map_some, hfs, value_interleave hd hg hp hfs]

/-- Each group is left as its job leaves it alone, but for the ids. -/
theorem rename_kept_interleave (hd : WellFormed d) (h : Ends mode gs d order) (hg : g ∈ dedup gs)
    (hnamed : g.emailId ≠ "") :
    ((interleave client order (jobs mode gs) d).2.find? g.emailId).map (·.rename d.kept) =
      (((reconcileGroup mode g).run client d).state.find? g.emailId).map (·.rename d.kept) := by
  obtain ⟨j, hj⟩ := List.mem_iff_getElem?.mp hg
  obtain ⟨p, fs, hp, hfs⟩ := h.exists_value hj
  obtain ⟨-, ρ, hmirrors⟩ := mirrors_interleave hd hj hnamed hp hfs
  exact hmirrors.rename_kept hd

theorem keeps_interleave {I : Directory → Prop} (hstep : ∀ c t, I t → I (client c t).2) (hd : I d)
    (mode : Mode) (gs : List GroupSpec) (order : List Nat) :
    I (interleave client order (jobs mode gs) d).2 :=
  interleave_invariant (allCallsAt_jobs mode gs) (fun _ c t _ => hstep c t) hd order

/-- In whatever order the jobs make their calls, they report the same, and they leave the same
directory but for the ids. -/
theorem interleave_congr (hd : WellFormed d) (h : Ends mode gs d order)
    (h' : Ends mode gs d order') :
    (interleave client order (jobs mode gs) d).1.map value? =
        (interleave client order' (jobs mode gs) d).1.map value? ∧
      withoutNewIds d (interleave client order (jobs mode gs) d).2 =
        withoutNewIds d (interleave client order' (jobs mode gs) d).2 := by
  refine ⟨by rw [values_interleave hd h, values_interleave hd h'], ?_⟩
  have hfaults : ∀ order, SameFaults d (interleave client order (jobs mode gs) d).2 :=
    keeps_interleave (fun c t ht => ht.trans (sameFaults_client c t)) (.refl d) mode gs
  have hdelay : ∀ order,
      (interleave client order (jobs mode gs) d).2.lookupDelay = d.lookupDelay :=
    keeps_interleave (I := fun t : Directory => t.lookupDelay = d.lookupDelay)
      (fun c t ht => (lookupDelay_client c t).trans ht) rfl mode gs
  refine withoutNewIds_congr (fun k => ?_) ((hfaults order).symm.trans (hfaults order'))
    ((hdelay order').trans (hdelay order).symm)
  by_cases hk : ∃ g ∈ dedup gs, g.emailId ≠ "" ∧ k = key g.emailId
  · obtain ⟨g, hg, hnamed, rfl⟩ := hk
    exact (rename_kept_interleave hd h hg hnamed).trans
      (rename_kept_interleave hd h' hg hnamed).symm
  · have hother : ∀ g ∈ dedup gs, g.emailId ≠ "" → k ≠ key g.emailId :=
      fun g hg hnamed heq => hk ⟨g, hg, hnamed, heq⟩
    rw [get?_interleave mode gs order d hother, get?_interleave mode gs order' d hother]

end Orders

end Jobs

/-- However the calls of the jobs of any groups come between one another, from every directory that
can be built each job reports what it reports when the jobs run one after another, and the directory
is the same in the end as then, once the new ids are left out. -/
theorem interleave_eq_sequential {d : Directory} (hd : Reachable d) (confirm : Bool)
    (gs : List GroupSpec) (order : List Nat)
    (hended : ∀ p ∈ (interleave client order (jobs (mode confirm) gs) d).1, p.value?.isSome) :
    (interleave client order (jobs (mode confirm) gs) d).1.map value? =
        (endValues client (jobs (mode confirm) gs) d).map some ∧
      withoutNewIds d (interleave client order (jobs (mode confirm) gs) d).2 =
        withoutNewIds d (endState client (jobs (mode confirm) gs) d) := by
  obtain ⟨sequential, hvalues, hstate⟩ := exists_order client (jobs (mode confirm) gs) d
  rw [← hvalues, ← hstate]
  refine interleave_congr hd.wellFormed hended fun p hp => ?_
  have hvalue : p.value? ∈ (endValues client (jobs (mode confirm) gs) d).map some :=
    hvalues ▸ List.mem_map.mpr ⟨p, hp, rfl⟩
  obtain ⟨fs, -, hfs⟩ := List.mem_map.mp hvalue
  rw [← hfs]
  rfl

/-- Turns of the two jobs of the sample roster, of which the second one begins. -/
def sampleOrder : List Nat :=
  (List.replicate 12 [1, 0, 1]).flatten

/-- The jobs of the sample roster take turns, and one member cannot be removed. -/
theorem sample_interleaved :
    (interleave client sampleOrder (jobs (mode true) sampleRoster.groups)
          (sampleDirectory.withFailingMember "dan@x.io")).1.map value? =
        (endValues client (jobs (mode true) sampleRoster.groups)
          (sampleDirectory.withFailingMember "dan@x.io")).map some ∧
      withoutNewIds (sampleDirectory.withFailingMember "dan@x.io")
          (interleave client sampleOrder (jobs (mode true) sampleRoster.groups)
            (sampleDirectory.withFailingMember "dan@x.io")).2 =
        withoutNewIds (sampleDirectory.withFailingMember "dan@x.io")
          (endState client (jobs (mode true) sampleRoster.groups)
            (sampleDirectory.withFailingMember "dan@x.io")) :=
  interleave_eq_sequential (.withFailingMember _ reachable_sampleDirectory) true
    sampleRoster.groups sampleOrder (by decide +kernel)

end Reconcile

end GroupKeeper
