import Mathlib.Data.Nat.ModEq
import GroupKeeper.Proofs.Text.Lowercase

/-! Small letters. What lower-casing puts in the place of a character is left as it is when it is
lower-cased again, wherever it stands; hence lower-casing a text twice is lower-casing it once. -/

namespace GroupKeeper.Text

/-- A character that lower-casing leaves as it is. -/
def IsSmall (c : Char) : Prop :=
  lowerChar c = [c]

instance (c : Char) : Decidable (IsSmall c) :=
  inferInstanceAs (Decidable (lowerChar c = [c]))

/-! ## Rows of the table -/

/-- Whether no character that the row `r` gives is one that the row `s` moves: they lie beside the
run of `s`, or they fall between its steps. A shift is taken apart into the ways up and down, since
a table of rows is compared faster with natural numbers. -/
def Shift.misses (r s : Shift) : Bool :=
  let up := r.shift.toNat
  let down := (-r.shift).toNat
  (r.last + up).blt (s.first + down) || (s.last + down).blt (r.first + up) ||
    (r.step % s.step == 0 || r.last == r.first) &&
      (r.first + up) % s.step != (s.first + down) % s.step

theorem Shift.toNat_of_image? {r : Shift} {c x : Char} (h : r.image? c = some x)
    (hpos : 0 < x.toNat) : x.toNat + (-r.shift).toNat = c.toNat + r.shift.toNat := by
  simp only [image?] at h
  split at h
  · obtain rfl := Option.some.inj h
    rcases toNat_ofNat_eq_zero_or ((c.toNat : Int) + r.shift).toNat with h0 | h0 <;> omega
  · simp at h

theorem Shift.holds_of_image? {r : Shift} {c x : Char} (h : r.image? c = some x) :
    r.first ≤ c.toNat ∧ c.toNat ≤ r.last ∧ c.toNat ≡ r.first [MOD r.step] := by
  simp only [image?] at h
  split at h
  · next hc =>
    exact ⟨hc.1, hc.2.1, ((Nat.modEq_iff_dvd' hc.1).mpr (Nat.dvd_of_mod_eq_zero hc.2.2)).symm⟩
  · simp at h

theorem Shift.image?_eq_none {r s : Shift} (h : r.misses s = true) {c x : Char}
    (hx : r.image? c = some x) (hpos : 0 < x.toNat) : s.image? x = none := by
  have hmoved := toNat_of_image? hx hpos
  obtain ⟨hfirst, hlast, hstep⟩ := holds_of_image? hx
  by_contra hsome
  obtain ⟨y, hy⟩ := Option.ne_none_iff_exists'.mp hsome
  obtain ⟨hfirst', hlast', hstep'⟩ := holds_of_image? hy
  simp only [misses, Bool.or_eq_true, Bool.and_eq_true, Nat.blt_eq, beq_iff_eq,
    bne_iff_ne] at h
  rcases h with (h | h) | ⟨hsteps, hoff⟩
  · omega
  · omega
  · -- In steps of `s`, the character and the first one of `r` fall on the same place.
    have hback : c.toNat ≡ r.first [MOD s.step] := by
      rcases hsteps with hsteps | hsingle
      · exact hstep.of_dvd (Nat.dvd_of_mod_eq_zero hsteps)
      · rw [show c.toNat = r.first by omega]
    refine hoff ((hback.add_right _).symm.trans ?_)
    rw [← hmoved]
    exact hstep'.add_right _

/-- The row that would hold one character alone, and leave it as it is. -/
def Shift.keep (c : Char) : Shift :=
  ⟨c.toNat, c.toNat, 1, 0⟩

theorem Shift.image?_keep (c : Char) : (keep c).image? c = some c := by
  have hback : ((c.toNat : Int) + 0).toNat = c.toNat := by omega
  have hwithin : (keep c).first ≤ c.toNat ∧ c.toNat ≤ (keep c).last ∧
      (c.toNat - (keep c).first) % (keep c).step = 0 :=
    ⟨le_rfl, le_rfl, Nat.mod_one _⟩
  rw [image?, if_pos hwithin]
  exact congrArg some ((congrArg Char.ofNat hback).trans c.ofNat_toNat)

/-- The rows of all characters that lower-casing gives for others: those of the table, and the
characters that are given for the capital I with a dot and for the capital sigma. -/
def smallRows : List Shift :=
  ['i', '\u0307', 'ς', 'σ'].map Shift.keep ++ caseShifts

/-- The rows of all characters that lower-casing replaces out of context. -/
def capitalRows : List Shift :=
  Shift.keep 'İ' :: caseShifts

/-- Lower-casing gives nothing that is lower-cased to something else. -/
theorem misses_of_mem {r s : Shift} (hr : r ∈ smallRows) (hs : s ∈ capitalRows) :
    r.misses s = true := by
  have hall : (smallRows.all fun r => capitalRows.all (r.misses ·)) = true := by
    decide +kernel
  exact List.all_eq_true.mp (List.all_eq_true.mp hall r hr) s hs

/-! ## Lower-casing again -/

theorem isSmall_of_none {c : Char} (hdot : c ≠ 'İ')
    (hnone : ∀ row ∈ caseShifts, row.image? c = none) : IsSmall c := by
  have hfind : caseShifts.findSome? (·.image? c) = none := List.findSome?_eq_none_iff.mpr hnone
  simp [IsSmall, lowerChar, hdot, hfind]

theorem isSmall_of_image? {row : Shift} (hrow : row ∈ smallRows) {c x : Char}
    (h : row.image? c = some x) : IsSmall x := by
  -- A shift that leads to no character gives the one with the number zero.
  rcases Nat.eq_zero_or_pos x.toNat with hzero | hpos
  · exact lowerChar_of_lt (by omega)
  · have hmiss : ∀ s ∈ capitalRows, s.image? x = none :=
      fun s hs => Shift.image?_eq_none (misses_of_mem hrow hs) h hpos
    obtain ⟨hdotted, hnone⟩ := List.forall_mem_cons.mp hmiss
    refine isSmall_of_none ?_ hnone
    rintro rfl
    simp [Shift.image?_keep] at hdotted

theorem isSmall_of_mem {x : Char} (hx : x ∈ ['i', '\u0307', 'ς', 'σ']) : IsSmall x :=
  isSmall_of_image? (List.mem_append_left _ (List.mem_map_of_mem hx)) (Shift.image?_keep x)

theorem isSmall_of_mem_lowerChar {c x : Char} (hx : x ∈ lowerChar c) : IsSmall x := by
  by_cases hdot : c = 'İ'
  · rw [lowerChar, if_pos hdot] at hx
    exact isSmall_of_mem (List.mem_append_left ['ς', 'σ'] hx)
  · rw [lowerChar, if_neg hdot, List.mem_singleton] at hx
    subst hx
    cases hfind : caseShifts.findSome? (·.image? c) with
    | none => exact isSmall_of_none hdot (List.findSome?_eq_none_iff.mp hfind)
    | some y =>
        obtain ⟨row, hrow, himage⟩ := List.exists_of_findSome?_eq_some hfind
        exact isSmall_of_image? (List.mem_append_right _ hrow) himage

theorem isSmall_of_mem_lowerAt {before rest : List Char} {c x : Char}
    (hx : x ∈ lowerAt before c rest) : IsSmall x := by
  rw [lowerAt] at hx
  split at hx
  · rw [List.mem_singleton] at hx
    split at hx <;> exact isSmall_of_mem (by simp [hx])
  · exact isSmall_of_mem_lowerChar hx

/-- A lower-cased text is made of small letters. -/
theorem isSmall_of_mem_lowerAfter {before cs : List Char} {x : Char}
    (hx : x ∈ lowerAfter before cs) : IsSmall x := by
  induction cs generalizing before with
  | nil => simp [lowerAfter] at hx
  | cons c rest ih =>
      rw [lowerAfter_cons, List.mem_append] at hx
      rcases hx with hx | hx
      · exact isSmall_of_mem_lowerAt hx
      · exact ih hx

/-- The capital sigma is not small, so no small letter depends on its place. -/
theorem lowerAt_of_isSmall {c : Char} (h : IsSmall c) (before rest : List Char) :
    lowerAt before c rest = [c] := by
  have hsigma : ¬IsSmall 'Σ' := by decide +kernel
  have hne : c ≠ 'Σ' := by
    rintro rfl
    exact hsigma h
  rw [lowerAt, if_neg hne]
  exact h

theorem lowerAfter_of_isSmall {cs : List Char} (h : ∀ c ∈ cs, IsSmall c) (before : List Char) :
    lowerAfter before cs = cs := by
  induction cs generalizing before with
  | nil => rfl
  | cons c rest ih =>
      obtain ⟨hc, hrest⟩ := List.forall_mem_cons.mp h
      rw [lowerAfter_cons, lowerAt_of_isSmall hc, ih hrest]
      rfl

/-- Lower-casing a text twice is lower-casing it once. -/
@[simp] theorem lowerChars_lowerChars (cs : List Char) :
    lowerChars (lowerChars cs) = lowerChars cs :=
  lowerAfter_of_isSmall (fun _ => isSmall_of_mem_lowerAfter) []

end GroupKeeper.Text
