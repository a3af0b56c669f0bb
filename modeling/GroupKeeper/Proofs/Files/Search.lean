import Mathlib.Data.List.Nodup
import GroupKeeper.Proofs.Files.Places

/-! The search for files with a name. In a sound tree everything that has the name is found, and
found once, in whatever order the directories list their entries. Only what is below a directory
with a path that is too long is passed over; and such a directory is taken for a file itself. -/

namespace GroupKeeper.FileTree

variable {t : FileTree} {name path n : String} {names : List String}
  {entries : List (String × FileTree)}

/-- A place where a name is found. The directory that it is in has a path that is short enough, and
it is a file, or as a directory it has a path that is too long. -/
structure IsFound (name path : String) (t : FileTree) (names : List String) : Prop where
  named : names.getLast? = some name
  reached : isShort (names.dropLast.foldl Path.join path) = true
  leaf : ∃ u, t.at? names = some u ∧
    (u.isDirectory && isShort (names.foldl Path.join path)) = false

theorem isDirectory_eq (t : FileTree) : t.isDirectory = t.content?.isNone := by
  cases t <;> rfl

/-- What is found does not depend on the order of entries. -/
theorem IsFound.of_samePlaces {u : FileTree} (h : IsFound name path t names)
    (hsame : SamePlaces t u) : IsFound name path u names := by
  obtain ⟨hnamed, hreached, v, hat, hleaf⟩ := h
  have hplace := hsame names
  rw [hat, Option.map_some] at hplace
  obtain ⟨w, hat', hcontent⟩ := Option.map_eq_some_iff.mp hplace.symm
  refine ⟨hnamed, hreached, w, hat', ?_⟩
  rw [isDirectory_eq, hcontent, ← isDirectory_eq, hleaf]

/-! ## Entry by entry -/

/-- Where a name is found in an entry of a directory. -/
def findAt (name path : String) (e : String × FileTree) : List (List String) :=
  if e.2.isDirectory && isShort (Path.join path e.1) then
    (e.2.findNamed name (Path.join path e.1)).map (e.1 :: ·)
  else if e.1 = name then [[e.1]] else []

theorem findInEntries_eq :
    findInEntries name path entries = entries.flatMap (findAt name path) := by
  induction entries with
  | nil => rfl
  | cons e entries ih =>
      rw [findInEntries, ih]
      rfl

theorem head?_of_mem_findAt {e : String × FileTree} (h : names ∈ findAt name path e) :
    names.head? = some e.1 := by
  rw [findAt] at h
  split at h
  · obtain ⟨rest, -, rfl⟩ := List.mem_map.mp h
    rfl
  · split at h
    · rw [List.mem_singleton.mp h]
      rfl
    · simp at h

theorem isFound_singleton (hshort : isShort path = true) {inner : FileTree}
    (hentry : t.entry? n = .ok inner) : IsFound name path t [n] ↔
      n = name ∧ (inner.isDirectory && isShort (Path.join path n)) = false := by
  have hat : t.at? [n] = some inner := by
    rw [at?, hentry]
    rfl
  constructor
  · rintro ⟨hnamed, -, u, hu, hleaf⟩
    obtain rfl := Option.some.inj (hat.symm.trans hu)
    exact ⟨Option.some.inj hnamed, hleaf⟩
  · rintro ⟨rfl, hleaf⟩
    exact ⟨rfl, hshort, inner, hat, hleaf⟩

theorem isFound_cons (hne : names ≠ []) {inner : FileTree} (hentry : t.entry? n = .ok inner) :
    IsFound name path t (n :: names) ↔ IsFound name (Path.join path n) inner names := by
  have hat : t.at? (n :: names) = inner.at? names := by
    rw [at?, hentry]
  have hlast : (n :: names).getLast? = names.getLast? := by
    rw [List.getLast?_cons, List.getLast?_eq_some_getLast hne]
    rfl
  constructor
  · rintro ⟨hnamed, hreached, hleaf⟩
    rw [List.dropLast_cons_of_ne_nil hne] at hreached
    exact ⟨hlast ▸ hnamed, hreached, hat ▸ hleaf⟩
  · rintro ⟨hnamed, hreached, hleaf⟩
    refine ⟨hlast ▸ hnamed, ?_, hat ▸ hleaf⟩
    rwa [List.dropLast_cons_of_ne_nil hne]

/-- What is found in an entry is what is found behind its name, if that is so for what is inside. -/
theorem mem_findAt {inner : FileTree} (hplain : Files.Plain path) (hshort : isShort path = true)
    (hn : ValidName n) (hsound : inner.Sound) (hentry : t.entry? n = .ok inner)
    (hinner : isShort (Path.join path n) = true → ∀ rest,
      rest ∈ inner.findNamed name (Path.join path n) ↔ IsFound name (Path.join path n) inner rest)
    {rest : List String} :
    n :: rest ∈ findAt name path (n, inner) ↔ IsFound name path t (n :: rest) := by
  cases rest with
  | nil =>
      rw [isFound_singleton hshort hentry, findAt]
      split
      · next hdeep =>
        -- Behind an entry that is searched, no place is found without a name.
        have hnone : ¬IsFound name (Path.join path n) inner [] := fun h => by simpa using h.named
        simp [hdeep, hinner (Bool.and_eq_true_iff.mp hdeep).2, hnone]
      · next hleaf => split <;> simp_all
  | cons m more =>
      rw [isFound_cons (List.cons_ne_nil m more) hentry, findAt]
      split
      · next hdeep => simp [hinner (Bool.and_eq_true_iff.mp hdeep).2]
      · next hleaf =>
        refine ⟨fun h => ?_, fun h => absurd ?_ hleaf⟩
        · split at h <;> simp at h
        · -- Whatever is found behind two names is found in a directory that is searched.
          obtain ⟨u, hat, -⟩ := h.leaf
          obtain ⟨_, _, rfl, -⟩ := exists_entry_of_at? hsound hat
          have hvalid : ∀ m' ∈ (m :: more).dropLast, ValidName m' := fun m' hm' =>
            hsound.valid_of_at? hat m' (List.dropLast_subset _ hm')
          exact Files.isShort_of_foldl_join (Files.plain_join hplain hn) hvalid h.reached

/-- Everything that has the name is found, and nothing else. -/
theorem mem_findNamed (hsound : t.Sound) (hplain : Files.Plain path)
    (hshort : isShort path = true) :
    names ∈ t.findNamed name path ↔ IsFound name path t names := by
  induction hsound generalizing path names with
  | file content =>
      refine ⟨fun h => by simp [findNamed] at h, fun h => ?_⟩
      obtain ⟨hnamed, -, u, hat, -⟩ := h
      cases names <;> simp [at?, entry?] at hnamed hat
  | @directory entries distinct valid sound ih =>
      have hsound : (directory entries).Sound := .directory distinct valid sound
      have hentry : ∀ {n inner rest}, (n, inner) ∈ entries →
          (n :: rest ∈ findAt name path (n, inner) ↔
            IsFound name path (directory entries) (n :: rest)) := fun hmem =>
        mem_findAt hplain hshort (valid _ hmem) (sound _ hmem) ((entry?_eq_ok hsound).mpr hmem)
          fun hdeep _ => ih _ hmem (Files.plain_join hplain (valid _ hmem)) hdeep
      rw [findNamed, findInEntries_eq, List.mem_flatMap]
      constructor
      · rintro ⟨⟨n, inner⟩, hmem, h⟩
        obtain ⟨rest, rfl⟩ := List.head?_eq_some_iff.mp (head?_of_mem_findAt h)
        exact (hentry hmem).mp h
      · intro h
        cases names with
        | nil => exact absurd h.named (by simp)
        | cons n rest =>
            obtain ⟨u, hat, -⟩ := h.leaf
            obtain ⟨_, inner, heq, hmem, -⟩ := exists_entry_of_at? hsound hat
            obtain rfl := FileTree.directory.inj heq
            exact ⟨(n, inner), hmem, (hentry hmem).mpr h⟩

theorem nodup_findNamed (hsound : t.Sound) : (t.findNamed name path).Nodup := by
  induction hsound generalizing path with
  | file content => exact List.nodup_nil
  | @directory entries distinct valid sound ih =>
      rw [findNamed, findInEntries_eq, List.nodup_flatMap]
      refine ⟨fun e he => ?_, ?_⟩
      · rw [findAt]
        split
        · exact (ih e he).map fun _ _ heq => List.tail_eq_of_cons_eq heq
        · split
          · exact List.nodup_singleton _
          · exact List.nodup_nil
      · -- What is found in two entries begins with different names.
        refine (List.pairwise_map.mp distinct).imp fun hne => ?_
        intro names h h'
        exact hne (Option.some.inj ((head?_of_mem_findAt h).symm.trans (head?_of_mem_findAt h')))

end GroupKeeper.FileTree
