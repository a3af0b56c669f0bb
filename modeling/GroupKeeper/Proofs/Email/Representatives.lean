import GroupKeeper.Proofs.Email
import GroupKeeper.Proofs.Text.SmallLetters

/-! Normal forms as representatives. The normal form of an address names the same mailbox as the
address, and it is its own normal form, so that a mailbox can be kept by it. Its local part has no
full stop, and it has as many at signs as the address. -/

namespace GroupKeeper.Email

open Text

theorem undotted_undotted (localPart : List Char) :
    undotted (undotted localPart) = undotted localPart := by
  simp [undotted]

theorem dot_notMem_undotted (localPart : List Char) : '.' ∉ undotted localPart := by
  simp [undotted]

/-- The normal form of an address is cut where the address is. -/
theorem parts?_canonicalChars {address localPart domain : List Char}
    (h : parts? address = some (localPart, domain)) :
    parts? (canonicalChars address) =
      some (undotted (lowerChars localPart), lowerChars domain) := by
  obtain ⟨-, hlocal, hdomain⟩ := parts?_eq_some_iff.mp h
  rw [canonicalChars_of_parts h, parts?_eq_some_iff, lowerChars_undotted]
  refine ⟨rfl, at_notMem_undotted ?_, ?_⟩
  · rwa [at_mem_lowerChars_iff]
  · rwa [at_mem_lowerChars_iff]

theorem canonicalChars_canonicalChars (address : List Char) :
    canonicalChars (canonicalChars address) = canonicalChars address := by
  -- Whether an address is cut depends on its at signs alone, of which as many are left.
  cases h : parts? address with
  | none =>
      have hnone : parts? (canonicalChars address) = none :=
        parts?_eq_none_of_count (count_at_canonicalChars address).symm h
      rw [canonicalChars_of_none hnone, canonicalChars_of_none h, lowerChars_lowerChars]
  | some pair =>
      obtain ⟨localPart, domain⟩ := pair
      rw [canonicalChars_of_parts (parts?_canonicalChars h), canonicalChars_of_parts h,
        undotted_undotted, ← lowerChars_undotted, lowerChars_lowerChars, lowerChars_lowerChars]

theorem toList_canonical (address : String) :
    (canonical address).toList = canonicalChars address.toList :=
  String.toList_ofList

/-- What stands before the lone at sign of a normal form has no full stop. -/
theorem dot_notMem_front {address : List Char} (h : address.count '@' = 1) :
    '.' ∉ (canonicalChars address).takeWhile (· != '@') := by
  obtain ⟨⟨localPart, domain⟩, hparts⟩ :=
    Option.isSome_iff_exists.mp ((isSome_parts?_iff address).mpr h)
  obtain ⟨hwhole, hlocal, -⟩ := parts?_eq_some_iff.mp (parts?_canonicalChars hparts)
  have hpass : ∀ c ∈ undotted (lowerChars localPart), (c != '@') = true := by
    intro c hc
    simpa using fun heq : c = '@' => hlocal (heq ▸ hc)
  rw [hwhole, List.takeWhile_append_of_pos hpass]
  simpa using dot_notMem_undotted (lowerChars localPart)

/-- The normal form of an address is one of its spellings, and the one that is left as it is. The
normal form of an address with exactly one at sign has one, too, and no full stop before it. -/
theorem canonical_represents (address : String) :
    canonical (canonical address) = canonical address ∧
      equals address (canonical address) = true ∧
      (address.toList.count '@' = 1 → (canonical address).toList.count '@' = 1 ∧
        '.' ∉ (canonical address).toList.takeWhile (· != '@')) := by
  have hsettled : canonical (canonical address) = canonical address := by
    rw [canonical, toList_canonical, canonicalChars_canonicalChars, ← canonical]
  refine ⟨hsettled, (equals_iff _ _).mpr hsettled.symm, fun h => ?_⟩
  rw [toList_canonical, count_at_canonicalChars]
  exact ⟨h, dot_notMem_front h⟩

/-- A sigma that ends a word, before a full stop that goes; and a capital with a small form of two
characters. -/
theorem sigmas_represented :
    canonical "Α.ΣΑ.Σ.@İ.x" = "ασας@i̇.x" ∧ canonical "ασας@i̇.x" = "ασας@i̇.x" ∧
      equals "Α.ΣΑ.Σ.@İ.x" "ασας@i̇.x" = true ∧ "Α.ΣΑ.Σ.@İ.x".toList.count '@' = 1 ∧
      '.' ∉ (canonical "Α.ΣΑ.Σ.@İ.x").toList.takeWhile (· != '@') := by
  have hform : canonical "Α.ΣΑ.Σ.@İ.x" = "ασας@i̇.x" := by decide +kernel
  have hcount : "Α.ΣΑ.Σ.@İ.x".toList.count '@' = 1 := by decide
  obtain ⟨hsettled, hequals, hlone⟩ := canonical_represents "Α.ΣΑ.Σ.@İ.x"
  exact ⟨hform, hform ▸ hsettled, hform ▸ hequals, hcount, (hlone hcount).2⟩

end GroupKeeper.Email
