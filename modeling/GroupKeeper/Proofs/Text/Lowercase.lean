import Mathlib.Data.List.Basic
import GroupKeeper.Text.Lowercase

/-! Lower-casing and the two marks of an address. A full stop is skipped when the end of a word is
looked for, and an at sign ends every word. Hence lower-casing commutes with taking full stops out,
and an at sign cuts a text into two parts that are lower-cased each for itself. -/

namespace GroupKeeper.Text

/-! ## Single characters -/

theorem caseShifts_bounds :
    ∀ row ∈ caseShifts, 65 ≤ row.first ∧ 97 ≤ (row.first : Int) + row.shift := by
  decide +kernel

theorem toNat_ofNat_eq_zero_or (n : Nat) : (Char.ofNat n).toNat = 0 ∨ (Char.ofNat n).toNat = n := by
  by_cases h : n.isValidChar
  · right
    rw [Char.ofNat, dif_pos h]
    rfl
  · left
    rw [Char.ofNat, dif_neg h]
    rfl

/-- The rows of the table move capitals only, and what they give is no mark. -/
theorem toNat_of_image? {row : Shift} (hrow : row ∈ caseShifts) {c x : Char}
    (h : row.image? c = some x) : 65 ≤ c.toNat ∧ (x.toNat = 0 ∨ 97 ≤ x.toNat) := by
  obtain ⟨hfirst, hshift⟩ := caseShifts_bounds row hrow
  simp only [Shift.image?] at h
  split at h
  · next hc =>
    obtain rfl := Option.some.inj h
    refine ⟨by omega, ?_⟩
    rcases toNat_ofNat_eq_zero_or ((c.toNat : Int) + row.shift).toNat with h0 | h0
    · exact .inl h0
    · right
      rw [h0]
      omega
  · simp at h

/-- Lower-casing keeps a mark that comes before the capitals. -/
theorem lowerChar_of_lt {c : Char} (h : c.toNat < 65) : lowerChar c = [c] := by
  have hdot : c ≠ 'İ' := by
    rintro rfl
    revert h
    decide
  have hnone : caseShifts.findSome? (·.image? c) = none := by
    rw [List.findSome?_eq_none_iff]
    intro row hrow
    cases himage : row.image? c with
    | none => rfl
    | some x =>
        have := (toNat_of_image? hrow himage).1
        omega
  simp [lowerChar, hdot, hnone]

/-- Lower-casing makes no mark out of another character. -/
theorem eq_of_mem_lowerChar {c x : Char} (hx : x ∈ lowerChar c) (hpos : 0 < x.toNat)
    (hlt : x.toNat < 65) : c = x := by
  simp only [lowerChar] at hx
  split at hx
  · rcases List.mem_cons.mp hx with rfl | hx
    · exact absurd hlt (by decide)
    · obtain rfl := List.mem_singleton.mp hx
      exact absurd hlt (by decide)
  · obtain rfl := List.mem_singleton.mp hx
    cases hfind : caseShifts.findSome? (·.image? c) with
    | none => rfl
    | some y =>
        obtain ⟨row, hrow, himage⟩ := List.exists_of_findSome?_eq_some hfind
        have hy := (toNat_of_image? hrow himage).2
        simp only [hfind, Option.getD_some] at hpos hlt
        omega

@[simp] theorem lowerChar_at : lowerChar '@' = ['@'] :=
  lowerChar_of_lt (by decide)

@[simp] theorem lowerChar_dot : lowerChar '.' = ['.'] :=
  lowerChar_of_lt (by decide)

theorem at_notMem_lowerChar {c : Char} (h : c ≠ '@') : '@' ∉ lowerChar c :=
  fun hm => h (eq_of_mem_lowerChar hm (by decide) (by decide))

theorem dot_notMem_lowerChar {c : Char} (h : c ≠ '.') : '.' ∉ lowerChar c :=
  fun hm => h (eq_of_mem_lowerChar hm (by decide) (by decide))

/-- What replaces one character: the small sigma that fits its place, or its small form. -/
def lowerAt (before : List Char) (c : Char) (rest : List Char) : List Char :=
  if c = 'Σ' then [if endsWord before rest then 'ς' else 'σ'] else lowerChar c

theorem lowerAt_congr {before before' rest rest' : List Char} (c : Char)
    (hbefore : meetsCased before = meetsCased before')
    (hrest : meetsCased rest = meetsCased rest') :
    lowerAt before c rest = lowerAt before' c rest' := by
  rw [lowerAt, lowerAt, endsWord, endsWord, hbefore, hrest]

theorem lowerAfter_cons (before : List Char) (c : Char) (rest : List Char) :
    lowerAfter before (c :: rest) = lowerAt before c rest ++ lowerAfter (c :: before) rest :=
  rfl

theorem at_notMem_lowerAt {c : Char} (h : c ≠ '@') (before rest : List Char) :
    '@' ∉ lowerAt before c rest := by
  simp only [lowerAt]
  split
  · split <;> decide
  · exact at_notMem_lowerChar h

theorem dot_notMem_lowerAt {c : Char} (h : c ≠ '.') (before rest : List Char) :
    '.' ∉ lowerAt before c rest := by
  simp only [lowerAt]
  split
  · split <;> decide
  · exact dot_notMem_lowerChar h

/-! ## At signs -/

theorem meetsCased_append_at (front back : List Char) :
    meetsCased (front ++ '@' :: back) = meetsCased front := by
  have hskip : caseIgnorableSpans.has '@' = false := by decide +kernel
  have hcased : casedSpans.has '@' = false := by decide +kernel
  simp only [meetsCased, List.find?_append, List.find?_cons, hskip, Bool.not_false]
  cases front.find? (fun c => !caseIgnorableSpans.has c) with
  | none => simp [hcased]
  | some c => rfl

/-- Nothing before an at sign matters to what comes after it. -/
theorem lowerAfter_append_at (before outer cs : List Char) :
    lowerAfter (before ++ '@' :: outer) cs = lowerAfter before cs := by
  induction cs generalizing before with
  | nil => rfl
  | cons c rest ih =>
      rw [lowerAfter_cons, lowerAfter_cons, ← List.cons_append, ih,
        lowerAt_congr c (meetsCased_append_at before outer) rfl]

/-- An at sign cuts a text into two parts that are lower-cased each for itself. -/
theorem lowerAfter_at (before front back : List Char) :
    lowerAfter before (front ++ '@' :: back) =
      lowerAfter before front ++ '@' :: lowerChars back := by
  induction front generalizing before with
  | nil =>
      have hsigma : '@' ≠ 'Σ' := by decide
      have hback := lowerAfter_append_at [] before back
      simp only [List.nil_append] at hback
      simp [lowerAfter_cons, lowerAt, hsigma, hback, lowerChars, lowerAfter]
  | cons c front ih =>
      rw [List.cons_append, lowerAfter_cons, lowerAfter_cons, ih,
        lowerAt_congr c rfl (meetsCased_append_at front back), List.append_assoc]

theorem lowerChars_at (front back : List Char) :
    lowerChars (front ++ '@' :: back) = lowerChars front ++ '@' :: lowerChars back :=
  lowerAfter_at [] front back

theorem count_at_lowerAfter (before cs : List Char) :
    (lowerAfter before cs).count '@' = cs.count '@' := by
  induction cs generalizing before with
  | nil => rfl
  | cons c rest ih =>
      rw [lowerAfter_cons, List.count_append, ih, List.count_cons]
      by_cases hc : c = '@'
      · have hsigma : '@' ≠ 'Σ' := by decide
        simp [hc, lowerAt, hsigma, Nat.add_comm]
      · simp [List.count_eq_zero_of_not_mem (at_notMem_lowerAt hc before rest), hc]

/-- Lower-casing neither makes nor removes at signs. -/
theorem count_at_lowerChars (cs : List Char) : (lowerChars cs).count '@' = cs.count '@' :=
  count_at_lowerAfter [] cs

theorem at_mem_lowerChars_iff (cs : List Char) : '@' ∈ lowerChars cs ↔ '@' ∈ cs := by
  rw [← List.count_pos_iff, count_at_lowerChars, List.count_pos_iff]

/-! ## Full stops -/

theorem meetsCased_filter_dot (cs : List Char) :
    meetsCased (cs.filter (· != '.')) = meetsCased cs := by
  have hskip : caseIgnorableSpans.has '.' = true := by decide +kernel
  have hpred : (fun c => decide ((c != '.') = true ∧ (!caseIgnorableSpans.has c) = true)) =
      fun c => !caseIgnorableSpans.has c := by
    funext c
    by_cases hc : c = '.'
    · simp [hc, hskip]
    · simp [hc]
  simp only [meetsCased, List.find?_filter, hpred]

theorem lowerAfter_filter_dot (before cs : List Char) :
    lowerAfter (before.filter (· != '.')) (cs.filter (· != '.')) =
      (lowerAfter before cs).filter (· != '.') := by
  induction cs generalizing before with
  | nil => rfl
  | cons c rest ih =>
      rw [lowerAfter_cons, List.filter_append, ← ih]
      by_cases hc : c = '.'
      · have hsigma : '.' ≠ 'Σ' := by decide
        simp [hc, lowerAt, hsigma]
      · have hkept : (lowerAt before c rest).filter (· != '.') = lowerAt before c rest := by
          rw [List.filter_eq_self]
          intro x hx
          have hdot := dot_notMem_lowerAt hc before rest
          simpa using fun h : x = '.' => hdot (h ▸ hx)
        have hcons : ∀ cs : List Char, (c :: cs).filter (· != '.') = c :: cs.filter (· != '.') :=
          fun cs => List.filter_cons_of_pos (by simpa using hc)
        rw [hcons, lowerAfter_cons, hkept, ← hcons,
          lowerAt_congr c (meetsCased_filter_dot before) (meetsCased_filter_dot rest)]

/-- Full stops can be taken out before or after lower-casing. -/
theorem lowerChars_filter_dot (cs : List Char) :
    lowerChars (cs.filter (· != '.')) = (lowerChars cs).filter (· != '.') :=
  lowerAfter_filter_dot [] cs

end GroupKeeper.Text
