import GroupKeeper.Proofs.Failure

/-! Collections stay flat. A failure that is added may itself be several failures at once, under
contexts and collected out of others in turn, but only one layer is taken off when it is added. That
is enough: collections are made by adding failures to none, so what one holds is single already, and
every single failure comes into the collection once and in order. -/

namespace GroupKeeper

/-! ## Atoms -/

namespace Failure

mutual

/-- The single failures that a failure comes down to, however deep they are nested. -/
def atoms : Failure → List Failure
  | because c => [because c]
  | during context f => if f.several?.isSome then f.atoms else [during context f]
  | several fs => atomsOf fs

/-- The single failures that several failures come down to. -/
def atomsOf : List Failure → List Failure
  | [] => []
  | f :: fs => f.atoms ++ atomsOf fs

end

theorem atomsOf_eq_flatMap (fs : List Failure) : atomsOf fs = fs.flatMap atoms := by
  induction fs with
  | nil => rfl
  | cons f fs ih => rw [atomsOf, ih, List.flatMap_cons]

/-- Of several failures at once the atoms are those of each; any other failure is its own atom. -/
theorem atoms_eq : (f : Failure) → f.atoms = match f.several? with
    | some fs => fs.flatMap atoms
    | none => [f]
  | because c => rfl
  | several fs => atomsOf_eq_flatMap fs
  | during context f => by
      have ih := atoms_eq f
      rw [atoms, several?]
      cases h : f.several? with
      | none => rfl
      | some fs => simpa [h] using ih

theorem atoms_of_single {f : Failure} (h : f.several? = none) : f.atoms = [f] := by
  rw [atoms_eq, h]

theorem flatMap_atoms_of_single {fs : List Failure} (h : ∀ f ∈ fs, f.several? = none) :
    fs.flatMap atoms = fs := by
  rw [List.flatMap_congr fun f hf => atoms_of_single (h f hf)]
  exact List.flatMap_singleton' fs

/-- A failure with one layer of several failures at most. -/
def Shallow (f : Failure) : Prop :=
  ∀ g ∈ f.leaves, g.several? = none

theorem Shallow.atoms_eq_leaves {f : Failure} (h : f.Shallow) : f.atoms = f.leaves := by
  rw [Shallow, leaves] at h
  rw [leaves, atoms_eq]
  cases hf : f.several? with
  | none => rfl
  | some fs =>
      rw [hf] at h
      exact flatMap_atoms_of_single h

theorem shallow_because (c : Cause) : (because c).Shallow := by
  simp [Shallow, leaves, several?]

theorem Shallow.during {f : Failure} (h : f.Shallow) (context : String) :
    (during context f).Shallow := by
  rw [Shallow, leaves] at h
  rw [Shallow, leaves, several?]
  cases hf : f.several? with
  | none => simp [several?, hf]
  | some fs => rwa [hf] at h

end Failure

/-! ## Flat collections -/

namespace Failures

variable {fs gs : Failures} {f : Failure}

/-- A collection of single failures. -/
def Flat (fs : Failures) : Prop :=
  ∀ f ∈ fs.toList, f.several? = Option.none

theorem Flat.shallow (h : fs.Flat) : fs.toFailure.Shallow :=
  h

theorem flat_none : none.Flat := by
  simp [Flat]

theorem Flat.push (h : fs.Flat) (hf : f.Shallow) : (fs.push f).Flat := by
  rw [Flat, toList_push, List.forall_mem_append]
  exact ⟨h, hf⟩

theorem Flat.append (h : fs.Flat) (h' : gs.Flat) : (fs ++ gs).Flat := by
  rw [Flat, toList_append, List.forall_mem_append]
  exact ⟨h, h'⟩

theorem flat_ofList {fs : List Failure} (h : ∀ f ∈ fs, f.Shallow) : (ofList fs).Flat := by
  intro g hg
  rw [toList_ofList, List.mem_flatMap] at hg
  obtain ⟨f, hf, hg⟩ := hg
  exact h f hf g hg

end Failures

/-! ## How failures come about -/

mutual

/-- How a failure came about: out of a cause, in the course of something, or as a collection of
failures that was passed on. -/
inductive Origin where
  | because (cause : Cause)
  | during (context : String) (origin : Origin)
  | gathered (gathering : Gathering)

/-- How a collection of failures came about: out of none, one or a list of them, and then by adding
failures, outcomes of steps and other collections. -/
inductive Gathering where
  | none
  | of (origin : Origin)
  | ofList (origins : List Origin)
  | push (gathering : Gathering) (origin : Origin)
  | record (gathering : Gathering) (outcome : Except Origin Unit)
  | append (gathering more : Gathering)

end

mutual

/-- The failure that came about. -/
def Origin.failure : Origin → Failure
  | .because c => .because c
  | .during context o => .during context o.failure
  | .gathered g => g.failures.toFailure

/-- The failures that came about. -/
def Origin.failuresOf : List Origin → List Failure
  | [] => []
  | o :: os => o.failure :: Origin.failuresOf os

/-- The collection that came about. -/
def Gathering.failures : Gathering → Failures
  | .none => .none
  | .of o => .of o.failure
  | .ofList os => .ofList (Origin.failuresOf os)
  | .push g o => g.failures.push o.failure
  | .record g (.ok u) => g.failures.record (.ok u)
  | .record g (.error o) => g.failures.record (.error o.failure)
  | .append g more => g.failures ++ more.failures

end

/-- The failures that went into a collection, in order, each as it was. -/
def Gathering.inputs : Gathering → List Failure
  | none => []
  | of o => [o.failure]
  | ofList os => Origin.failuresOf os
  | push g o => g.inputs ++ [o.failure]
  | record g (.ok _) => g.inputs
  | record g (.error o) => g.inputs ++ [o.failure]
  | append g more => g.inputs ++ more.inputs

mutual

theorem Origin.shallow : (o : Origin) → o.failure.Shallow
  | .because c => Failure.shallow_because c
  | .during context o => o.shallow.during context
  | .gathered g => g.flat.shallow

theorem Origin.shallow_of_mem : (os : List Origin) → ∀ f ∈ Origin.failuresOf os, f.Shallow
  | [] => by simp [Origin.failuresOf]
  | o :: os => List.forall_mem_cons.mpr ⟨o.shallow, Origin.shallow_of_mem os⟩

/-- What is added has one layer at most, since the collections in it are flat already. -/
theorem Gathering.flat : (g : Gathering) → g.failures.Flat
  | .none => Failures.flat_none
  | .of o => Failures.flat_none.push o.shallow
  | .ofList os => Failures.flat_ofList (Origin.shallow_of_mem os)
  | .push g o => g.flat.push o.shallow
  | .record g (.ok _) => g.flat
  | .record g (.error o) => g.flat.push o.shallow
  | .append g more => g.flat.append more.flat

end

namespace Gathering

theorem shallow_of_mem_inputs : (g : Gathering) → ∀ f ∈ g.inputs, f.Shallow
  | none => by simp [inputs]
  | of o => List.forall_mem_singleton.mpr o.shallow
  | ofList os => Origin.shallow_of_mem os
  | push g o => List.forall_mem_append.mpr
      ⟨g.shallow_of_mem_inputs, List.forall_mem_singleton.mpr o.shallow⟩
  | record g (.ok _) => g.shallow_of_mem_inputs
  | record g (.error o) => List.forall_mem_append.mpr
      ⟨g.shallow_of_mem_inputs, List.forall_mem_singleton.mpr o.shallow⟩
  | append g more => List.forall_mem_append.mpr
      ⟨g.shallow_of_mem_inputs, more.shallow_of_mem_inputs⟩

/-- Each step takes one layer off what it adds. -/
theorem toList_failures : (g : Gathering) → g.failures.toList = g.inputs.flatMap Failure.leaves
  | none => rfl
  | of o => by
      rw [failures, inputs, Failures.of, Failures.toList_push, List.flatMap_singleton]
      rfl
  | ofList os => Failures.toList_ofList _
  | push g o => by
      rw [failures, inputs, Failures.toList_push, g.toList_failures, List.flatMap_append,
        List.flatMap_singleton]
  | record g (.ok _) => g.toList_failures
  | record g (.error o) => by
      rw [failures, inputs, Failures.record, Failures.toList_push, g.toList_failures,
        List.flatMap_append, List.flatMap_singleton]
  | append g more => by
      rw [failures, inputs, Failures.toList_append, g.toList_failures, more.toList_failures,
        List.flatMap_append]

/-- A collection holds the single failures that went into it, in order and however deep they were
nested; none of them is or wraps several failures; and it counts as success exactly where there were
none. -/
theorem flattens (g : Gathering) :
    g.failures.toList = g.inputs.flatMap Failure.atoms ∧
      (∀ f ∈ g.failures.toList, f.several? = Option.none) ∧
      (g.failures.result = .ok () ↔ g.inputs.flatMap Failure.atoms = []) := by
  have hlist : g.failures.toList = g.inputs.flatMap Failure.atoms := by
    rw [g.toList_failures]
    exact List.flatMap_congr fun f hf => (g.shallow_of_mem_inputs f hf).atoms_eq_leaves.symm
  refine ⟨hlist, g.flat, ?_⟩
  rw [Failures.result_eq_ok_iff, Failures.eq_none_iff, hlist]

/-- Contexts around several failures are lost, and those around a single one are kept. -/
example (a b : Cause) :
    let inner := .during "y" (.gathered (ofList [.during "z" (.gathered (of (.because b)))]))
    (push (of (.during "x" (.because a))) inner).failures.toList =
      [.during "x" (.because a), .because b] := by
  rfl

end Gathering

end GroupKeeper
