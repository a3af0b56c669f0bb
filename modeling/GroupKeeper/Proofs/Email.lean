import Mathlib.Data.List.Pairwise
import Mathlib.Data.List.TakeWhile
import GroupKeeper.Email
import GroupKeeper.Proofs.Text.Lowercase

/-! Addresses name one mailbox exactly when they have one normal form. The comparison looks at whole
addresses first and takes full stops out afterwards, the normal form does it the other way round;
they agree because lower-casing commutes with both cutting at the at sign and taking full stops
out. -/

namespace GroupKeeper.Email

open Text

/-! ## Parts of an address -/

theorem parts?_eq_some_iff {address localPart domain : List Char} :
    parts? address = some (localPart, domain) ↔
      address = localPart ++ '@' :: domain ∧ '@' ∉ localPart ∧ '@' ∉ domain := by
  constructor
  · intro h
    have hsplit := List.takeWhile_append_dropWhile (p := (· != '@')) (l := address)
    have hfront : '@' ∉ address.takeWhile (· != '@') :=
      fun hm => by simpa using List.mem_takeWhile_imp hm
    cases hdrop : address.dropWhile (· != '@') with
    | nil => simp [parts?, hdrop] at h
    | cons c rest =>
        have hc : c = '@' := by
          have := List.head?_dropWhile_not (· != '@') address
          simpa [hdrop] using this
        subst hc
        by_cases hrest : '@' ∈ rest
        · simp [parts?, hdrop, hrest] at h
        · simp only [parts?, hdrop, hrest, if_false, Option.some.injEq, Prod.mk.injEq] at h
          obtain ⟨rfl, rfl⟩ := h
          rw [hdrop] at hsplit
          exact ⟨hsplit.symm, hfront, hrest⟩
  · rintro ⟨rfl, hlocal, hdomain⟩
    have hpass : ∀ c ∈ localPart, (c != '@') = true := by
      intro c hc
      simpa using fun h : c = '@' => hlocal (h ▸ hc)
    simp [parts?, List.dropWhile_append_of_pos hpass, List.takeWhile_append_of_pos hpass, hdomain]

/-- Texts around a lone at sign can be told from the whole. -/
theorem append_at_inj {aLocal aDomain bLocal bDomain : List Char} (hlocal : '@' ∉ aLocal)
    (hdomain : '@' ∉ aDomain) (h : aLocal ++ '@' :: aDomain = bLocal ++ '@' :: bDomain) :
    aLocal = bLocal ∧ aDomain = bDomain := by
  have hinj := (List.append_cons_inj_of_notMem hlocal hdomain).mp h
  exact ⟨hinj.1, hinj.2.2⟩

/-- An address has parts when it has exactly one at sign. -/
theorem isSome_parts?_iff (address : List Char) :
    (parts? address).isSome ↔ address.count '@' = 1 := by
  constructor
  · intro h
    obtain ⟨⟨localPart, domain⟩, hparts⟩ := Option.isSome_iff_exists.mp h
    obtain ⟨rfl, hlocal, hdomain⟩ := parts?_eq_some_iff.mp hparts
    simp [List.count_eq_zero_of_not_mem hlocal, List.count_eq_zero_of_not_mem hdomain]
  · intro h
    have hmem : '@' ∈ address := List.count_pos_iff.mp (by omega)
    obtain ⟨localPart, domain, rfl, hlocal⟩ := List.eq_append_cons_of_mem hmem
    have hdomain : '@' ∉ domain := by
      simp only [List.count_append, List.count_cons_self] at h
      exact List.count_eq_zero.mp (by omega)
    rw [parts?_eq_some_iff.mpr ⟨rfl, hlocal, hdomain⟩]
    rfl

theorem parts?_eq_none_of_count {a b : List Char} (hcount : a.count '@' = b.count '@')
    (ha : parts? a = none) : parts? b = none := by
  rw [← Option.not_isSome_iff_eq_none, isSome_parts?_iff, ← hcount, ← isSome_parts?_iff, ha]
  simp

theorem at_notMem_undotted {localPart : List Char} (h : '@' ∉ localPart) :
    '@' ∉ undotted localPart :=
  fun hm => h (List.mem_filter.mp hm).1

theorem lowerChars_undotted (localPart : List Char) :
    lowerChars (undotted localPart) = undotted (lowerChars localPart) :=
  lowerChars_filter_dot localPart

/-! ## Normal forms -/

theorem canonicalChars_of_parts {address localPart domain : List Char}
    (h : parts? address = some (localPart, domain)) :
    canonicalChars address = lowerChars (undotted localPart) ++ '@' :: lowerChars domain := by
  simp [canonicalChars, h]

theorem canonicalChars_of_none {address : List Char} (h : parts? address = none) :
    canonicalChars address = lowerChars address := by
  simp [canonicalChars, h]

/-- A normal form has as many at signs as the address. -/
theorem count_at_canonicalChars (address : List Char) :
    (canonicalChars address).count '@' = address.count '@' := by
  cases h : parts? address with
  | none => rw [canonicalChars_of_none h, count_at_lowerChars]
  | some pair =>
      obtain ⟨localPart, domain⟩ := pair
      obtain ⟨rfl, hlocal, hdomain⟩ := parts?_eq_some_iff.mp h
      rw [canonicalChars_of_parts h, List.count_append, List.count_cons_self, count_at_lowerChars,
        count_at_lowerChars, List.count_append, List.count_cons_self,
        List.count_eq_zero_of_not_mem (at_notMem_undotted hlocal),
        List.count_eq_zero_of_not_mem hlocal]

/-- The parts of addresses with one small form have one small form each. -/
theorem lowerChars_parts_eq {a b aLocal aDomain bLocal bDomain : List Char}
    (ha : parts? a = some (aLocal, aDomain)) (hb : parts? b = some (bLocal, bDomain))
    (h : lowerChars a = lowerChars b) :
    lowerChars aLocal = lowerChars bLocal ∧ lowerChars aDomain = lowerChars bDomain := by
  obtain ⟨rfl, hlocal, hdomain⟩ := parts?_eq_some_iff.mp ha
  obtain ⟨rfl, -, -⟩ := parts?_eq_some_iff.mp hb
  rw [lowerChars_at, lowerChars_at] at h
  exact append_at_inj (mt (at_mem_lowerChars_iff aLocal).mp hlocal)
    (mt (at_mem_lowerChars_iff aDomain).mp hdomain) h

theorem canonicalChars_eq_of_lowerChars_eq {a b : List Char} (h : lowerChars a = lowerChars b) :
    canonicalChars a = canonicalChars b := by
  have hcount : a.count '@' = b.count '@' := by
    rw [← count_at_lowerChars a, h, count_at_lowerChars]
  cases ha : parts? a with
  | none =>
      rw [canonicalChars_of_none ha, canonicalChars_of_none (parts?_eq_none_of_count hcount ha), h]
  | some aParts =>
      cases hb : parts? b with
      | none => simp [parts?_eq_none_of_count hcount.symm hb] at ha
      | some bParts =>
          obtain ⟨hlocal, hdomain⟩ := lowerChars_parts_eq ha hb h
          rw [canonicalChars_of_parts ha, canonicalChars_of_parts hb, lowerChars_undotted,
            lowerChars_undotted, hlocal, hdomain]

/-! ## One mailbox -/

theorem equals_of_lowerChars_eq {a b : String} (h : lowerChars a.toList = lowerChars b.toList) :
    equals a b = true := by
  simp [equals, foldEq, h]

/-- Addresses with one normal form name one mailbox. -/
theorem equals_of_canonicalChars_eq {a b : String}
    (h : canonicalChars a.toList = canonicalChars b.toList) : equals a b = true := by
  have hcount : a.toList.count '@' = b.toList.count '@' := by
    rw [← count_at_canonicalChars, h, count_at_canonicalChars]
  cases ha : parts? a.toList with
  | none =>
      rw [canonicalChars_of_none ha,
        canonicalChars_of_none (parts?_eq_none_of_count hcount ha)] at h
      exact equals_of_lowerChars_eq h
  | some aParts =>
      cases hb : parts? b.toList with
      | none => simp [parts?_eq_none_of_count hcount.symm hb] at ha
      | some bParts =>
          obtain ⟨-, hlocal, hdomain⟩ := parts?_eq_some_iff.mp ha
          rw [canonicalChars_of_parts ha, canonicalChars_of_parts hb] at h
          obtain ⟨hlocals, hdomains⟩ := append_at_inj
            (mt (at_mem_lowerChars_iff _).mp (at_notMem_undotted hlocal))
            (mt (at_mem_lowerChars_iff _).mp hdomain) h
          simp [equals, foldEq, ha, hb, hlocals, hdomains]

/-- Addresses that name one mailbox have one normal form. -/
theorem canonicalChars_eq_of_equals {a b : String} (h : equals a b = true) :
    canonicalChars a.toList = canonicalChars b.toList := by
  by_cases hfold : lowerChars a.toList = lowerChars b.toList
  · exact canonicalChars_eq_of_lowerChars_eq hfold
  · cases ha : parts? a.toList with
    | none => simp [equals, foldEq, hfold, ha] at h
    | some aParts =>
        cases hb : parts? b.toList with
        | none => simp [equals, foldEq, hfold, ha, hb] at h
        | some bParts =>
            have hparts : lowerChars aParts.2 = lowerChars bParts.2 ∧
                lowerChars (undotted aParts.1) = lowerChars (undotted bParts.1) := by
              simpa [equals, foldEq, hfold, ha, hb] using h
            rw [canonicalChars_of_parts ha, canonicalChars_of_parts hb, hparts.1, hparts.2]

/-- Two addresses name one mailbox exactly when they have one normal form. -/
theorem equals_iff (a b : String) : equals a b = true ↔ canonical a = canonical b := by
  rw [canonical, canonical, String.ofList_inj]
  exact ⟨canonicalChars_eq_of_equals, equals_of_canonicalChars_eq⟩

theorem equals_eq_decide (a b : String) : equals a b = decide (canonical a = canonical b) := by
  rw [Bool.eq_iff_iff, equals_iff, decide_eq_true_iff]

@[simp] theorem equals_refl (a : String) : equals a a = true :=
  (equals_iff a a).mpr rfl

theorem equals_comm (a b : String) : equals a b = equals b a := by
  simp only [equals_eq_decide, eq_comm]

theorem equals_trans {a b c : String} (hab : equals a b = true) (hbc : equals b c = true) :
    equals a c = true :=
  (equals_iff a c).mpr (((equals_iff a b).mp hab).trans ((equals_iff b c).mp hbc))

theorem equals_symm {a b : String} (h : equals a b = true) : equals b a = true := by
  rw [equals_comm, h]

/-- Other spellings of one mailbox cannot be told apart. -/
theorem equals_congr {a b : String} (h : equals a b = true) (x : String) :
    equals x a = equals x b := by
  rw [equals_eq_decide, equals_eq_decide, (equals_iff a b).mp h]

/-- Among items with different mailboxes, a mailbox is found once. -/
theorem eq_of_pairwise {α : Type} {address : α → String} {xs : List α}
    (h : xs.Pairwise fun x y => equals (address x) (address y) = false) {x y : α} (hx : x ∈ xs)
    (hy : y ∈ xs) (heq : equals (address x) (address y) = true) : x = y := by
  by_contra hne
  have hsymm : Std.Symm fun x y : α => equals (address x) (address y) = false :=
    ⟨fun x y hxy => by rw [equals_comm, hxy]⟩
  have hfalse := List.Pairwise.forall h hx hy hne
  simp [heq] at hfalse

/-- The normal form decides which addresses name one mailbox, and naming one mailbox is an
equivalence. -/
theorem equals_normal_form :
    (∀ a b : String, equals a b = true ↔ canonical a = canonical b) ∧
      Equivalence fun a b : String => equals a b = true := by
  refine ⟨equals_iff, ⟨equals_refl, ?_, equals_trans⟩⟩
  intro a b hab
  rw [equals_comm]
  exact hab

/-- Small letters depend on their neighbours, but not on the full stops among them. -/
example : equals "Α.ΣΑ.Σ.@İ.x" "ασας@İ.X" = true := by decide +kernel

end GroupKeeper.Email
