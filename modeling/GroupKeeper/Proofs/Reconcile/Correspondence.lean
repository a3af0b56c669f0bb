import GroupKeeper.Proofs.Reconcile.Convergence

/-! Groups that are there and groups that are wanted, one for one. Groups are looked up by the exact
spelling of their address in small letters, but they are kept from removal under every equivalent
spelling. A run therefore leaves one group for each wanted one exactly if no wanted group was there
under another spelling. -/

namespace GroupKeeper.Reconcile

open Directory Program

/-- What stands under a key is a group whose address is equivalent to that of a wanted one. -/
def StandsFor (d : Directory) (k : String) (g : GroupSpec) : Prop :=
  ∃ e, d.groups.get? k = some e ∧ Email.equals g.emailId e.group.email = true

/-- The groups of a directory and the wanted ones stand for each other, one for one. -/
structure OneToOne (gs : List GroupSpec) (d : Directory) : Prop where
  present : ∀ g ∈ gs, ∃! k, StandsFor d k g
  wanted : ∀ k, (d.groups.get? k).isSome → ∃! g, g ∈ gs ∧ StandsFor d k g

/-- No wanted group is there under another spelling of its address. -/
def SpelledAlike (gs : List GroupSpec) (d : Directory) : Prop :=
  ∀ g ∈ gs, ∀ k, StandsFor d k g → k = key g.emailId

section Correspondence

variable {gs : List GroupSpec} {g g' : GroupSpec} {before d : Directory} {k : String}

theorem spelledAlike_iff : SpelledAlike gs d ↔ ∀ g ∈ gs, ∀ entry ∈ d.groups.entries,
    Email.equals g.emailId entry.2.group.email = true → entry.1 = key g.emailId := by
  constructor
  · intro h g hg entry hentry hequals
    exact h g hg _ ⟨_, Dictionary.get?_eq_some_iff.mpr hentry, hequals⟩
  · rintro h g hg k ⟨e, hfind, hequals⟩
    exact h g hg (k, e) (Dictionary.get?_eq_some_iff.mp hfind) hequals

theorem standsFor_key (hd : WellFormed d) {e : DirectoryEntry}
    (hfind : d.groups.get? (key g.emailId) = some e) : StandsFor d (key g.emailId) g :=
  ⟨e, hfind, equals_of_key_eq (hd.keyed _ e hfind)⟩

theorem eq_of_standsFor (hgs : Distinct gs) (hg : g ∈ gs) (hg' : g' ∈ gs) (h : StandsFor d k g)
    (h' : StandsFor d k g') : g = g' := by
  obtain ⟨e, hfind, hequals⟩ := h
  obtain ⟨e', hfind', hequals'⟩ := h'
  obtain rfl : e = e' := Option.some.inj (hfind.symm.trans hfind')
  rw [Email.equals_comm] at hequals'
  exact Email.eq_of_pairwise hgs.groups hg hg' (Email.equals_trans hequals hequals')

/-- What stands for a wanted group under a foreign key stands there before and after a run. -/
theorem Converged.standsFor_iff (hgs : Distinct gs) (h : Converged gs before d)
    (hbefore : WellFormed before) (hd : WellFormed d) (hg : g ∈ gs) (hk : k ≠ key g.emailId) :
    StandsFor d k g ↔ StandsFor before k g := by
  by_cases hother : ∃ g' ∈ gs, k = key g'.emailId
  · obtain ⟨g', hg', rfl⟩ := hother
    have hnever : ∀ t, WellFormed t → ¬ StandsFor t (key g'.emailId) g := by
      rintro t ht ⟨e, hfind, hequals⟩
      obtain rfl := eq_of_standsFor hgs hg hg' ⟨e, hfind, hequals⟩ (standsFor_key ht hfind)
      exact hk rfl
    exact iff_of_false (hnever d hd) (hnever before hbefore)
  · have hsame : d.groups.get? k = (before.groups.get? k).filter (isWanted gs) :=
      h.others k fun g' hg' heq => hother ⟨g', hg', heq⟩
    constructor
    · rintro ⟨e, hfind, hequals⟩
      rw [hsame, Option.filter_eq_some_iff] at hfind
      exact ⟨e, hfind.1, hequals⟩
    · rintro ⟨e, hfind, hequals⟩
      have hwanted : isWanted gs e = true := List.any_eq_true.mpr ⟨g, hg, hequals⟩
      exact ⟨e, by rw [hsame, hfind, Option.filter, if_pos hwanted], hequals⟩

theorem Converged.oneToOne_iff (hgs : Distinct gs) (h : Converged gs before d)
    (hbefore : WellFormed before) (hd : WellFormed d) :
    OneToOne gs d ↔ SpelledAlike gs before := by
  have hown : ∀ g ∈ gs, StandsFor d (key g.emailId) g := by
    intro g hg
    obtain ⟨e, hfind, -⟩ := h.settled g hg
    exact standsFor_key hd hfind
  constructor
  · intro hone g hg k hstands
    by_contra hk
    have hleft := (h.standsFor_iff hgs hbefore hd hg hk).mpr hstands
    exact hk ((hone.present g hg).unique hleft (hown g hg))
  · intro halike
    refine ⟨fun g hg => ⟨key g.emailId, hown g hg, fun k hstands => ?_⟩, fun k hsome => ?_⟩
    · by_contra hk
      exact hk (halike g hg k ((h.standsFor_iff hgs hbefore hd hg hk).mp hstands))
    · obtain ⟨e, hfind⟩ := Option.isSome_iff_exists.mp hsome
      obtain ⟨g, hg, hequals⟩ := h.wanted k e hfind
      refine ⟨g, ⟨hg, e, hfind, hequals⟩, ?_⟩
      rintro g' ⟨hg', hstands'⟩
      exact eq_of_standsFor hgs hg' hg hstands' ⟨e, hfind, hequals⟩

end Correspondence

/-- From every directory that can be built without injected failures, a confirmed run of a checked
roster that ends has succeeded, and it leaves exactly one group for each wanted one and no other if
and only if no wanted group was there under another spelling of its address. -/
theorem reconcileTimed_oneToOne_iff {d : Directory} (hd : Reachable d) (hfaultless : Faultless d)
    {c : Roster} (hc : Validation.validate c = .ok ()) (workers delay : Nat)
    (deadline : Option Nat) :
    (deadline = none →
      (reconcileTimed client delay deadline (mode true) workers c.groups d).value.isSome) ∧
    ∀ fs, (reconcileTimed client delay deadline (mode true) workers c.groups d).value = some fs →
      fs.result = .ok () ∧
      (OneToOne c.groups
        (reconcileTimed client delay deadline (mode true) workers c.groups d).state ↔
          SpelledAlike c.groups d) := by
  have hgs := Validation.distinct_of_validate hc
  have hhealthy := hd.healthy hfaultless
  obtain ⟨hvalue, hconverged⟩ := run_reconcileGroups hgs hhealthy workers
  refine ⟨fun hnone => ?_, fun fs hfs => ⟨result_reconcileTimed hfs hvalue, ?_⟩⟩
  · subst hnone
    exact isSome_reconcileTimed
  · rw [(reconcileTimed_completed hfs).1]
    exact hconverged.oneToOne_iff hgs hd.wellFormed (hhealthy.run _).wellFormed

theorem sample_oneToOne : SpelledAlike sampleRoster.groups sampleDirectory ∧ ∃ fs,
    (reconcileTimed client 3 none (mode true) 2 sampleRoster.groups sampleDirectory).value =
      some fs ∧ fs.result = .ok () ∧
    OneToOne sampleRoster.groups
      (reconcileTimed client 3 none (mode true) 2 sampleRoster.groups sampleDirectory).state := by
  have halike : SpelledAlike sampleRoster.groups sampleDirectory :=
    spelledAlike_iff.mpr (by decide +kernel)
  obtain ⟨hends, hall⟩ := reconcileTimed_oneToOne_iff reachable_sampleDirectory
    faultless_sampleDirectory validate_sampleRoster 2 3 none
  obtain ⟨fs, hfs⟩ := Option.isSome_iff_exists.mp (hends rfl)
  obtain ⟨hok, hiff⟩ := hall fs hfs
  exact ⟨halike, fs, hfs, hok, hiff.mpr halike⟩

/-! ## A wanted group under another spelling -/

/-- One group, without a full stop in its address. -/
def plainRoster : Roster := ⟨[{ GroupSpec.blank with emailId := "team@x.io" }]⟩

/-- The same group, with a full stop in its address. -/
def dottedDirectory : Directory :=
  empty.withGroup "te.am@x.io" "" ""

theorem standsFor_dotted {g : GroupSpec} (hg : g ∈ plainRoster.groups) :
    StandsFor dottedDirectory "te.am@x.io" g := by
  obtain rfl := List.mem_singleton.mp hg
  exact ⟨_, rfl, by decide +kernel⟩

/-- The group that is there already is not found, so that another one is inserted, and neither is
removed. -/
theorem dotted_not_oneToOne :
    Reachable dottedDirectory ∧ Faultless dottedDirectory ∧
    (dottedDirectory.groups.values.Pairwise fun e f =>
      Email.equals e.group.email f.group.email = false) ∧
    Validation.validate plainRoster = .ok () ∧ ∃ fs,
      (reconcileTimed client 0 none (mode true) 5 plainRoster.groups dottedDirectory).value =
        some fs ∧ fs.result = .ok () ∧
      ¬ OneToOne plainRoster.groups
        (reconcileTimed client 0 none (mode true) 5 plainRoster.groups dottedDirectory).state := by
  have hreachable : Reachable dottedDirectory := .withGroup _ _ _ .empty
  have hfaultless : Faultless dottedDirectory := ⟨rfl, rfl, rfl⟩
  have hvalid : Validation.validate plainRoster = .ok () := rfl
  have hgs := Validation.distinct_of_validate hvalid
  have hhealthy := hreachable.healthy hfaultless
  obtain ⟨hvalue, hconverged⟩ := run_reconcileGroups hgs hhealthy 5
  have hends : (reconcileTimed client 0 none (mode true) 5 plainRoster.groups
    dottedDirectory).value.isSome := isSome_reconcileTimed
  obtain ⟨fs, hfs⟩ := Option.isSome_iff_exists.mp hends
  refine ⟨hreachable, hfaultless, by decide +kernel, hvalid, fs, hfs,
    result_reconcileTimed hfs hvalue, ?_⟩
  rw [(reconcileTimed_completed hfs).1,
    hconverged.oneToOne_iff hgs hreachable.wellFormed (hhealthy.run _).wellFormed]
  intro halike
  have hkey : "te.am@x.io" = key "team@x.io" :=
    halike _ (List.mem_singleton_self _) _ (standsFor_dotted (List.mem_singleton_self _))
  exact absurd hkey (by decide +kernel)

end GroupKeeper.Reconcile
