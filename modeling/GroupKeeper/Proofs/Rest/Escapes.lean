import Mathlib.Data.List.Basic
import GroupKeeper.Rest.Address.Reader

/-! Escaped texts are read back. The bytes of a text come back, whatever else is kept as it is, if
percent signs are escaped; and the pairs of a query come back one by one, for any names and
values. -/

namespace GroupKeeper.Rest

/-! ## Bytes of texts -/

/-- The bytes of a text. -/
def bytesOf (s : String) : List UInt8 :=
  s.toUTF8.data.toList

theorem bytesOf_eq (s : String) : bytesOf s = s.toList.flatMap String.utf8EncodeChar := by
  rw [bytesOf, String.toUTF8_eq_toByteArray, ← String.utf8Encode_toList, List.utf8Encode,
    List.toList_data_toByteArray]

theorem bytesOf_injective : Function.Injective bytesOf := by
  intro s t h
  rw [← String.toByteArray_inj]
  exact ByteArray.ext (Array.toList_inj.mp h)

theorem fromUTF8?_bytesOf (s : String) : String.fromUTF8? ⟨(bytesOf s).toArray⟩ = some s := by
  have hbytes : (⟨(bytesOf s).toArray⟩ : ByteArray) = s.toByteArray := rfl
  rw [hbytes, String.fromUTF8?, dif_pos s.isValidUTF8]
  rfl

/-! ## Percent signs -/

theorem digit?_capitalDigit {n : Nat} (h : n < 16) :
    Text.digit? 16 (capitalDigit n) = some n := by
  revert n
  decide

theorem unescape_escapeByte (b : UInt8) (cs : List Char) :
    unescape (escapeByte b ++ cs) = b :: unescape cs := by
  have hb : b.toNat < 256 := b.toNat_lt
  have hdigits : Text.digits? 16 [capitalDigit (b.toNat / 16), capitalDigit (b.toNat % 16)] =
      some b.toNat := by
    have hsplit : 16 * (b.toNat / 16) + b.toNat % 16 = b.toNat := Nat.div_add_mod _ _
    simp [Text.digits?, digit?_capitalDigit (show b.toNat / 16 < 16 by omega),
      digit?_capitalDigit (Nat.mod_lt b.toNat (by omega)), hsplit]
  rw [escapeByte, List.cons_append, List.cons_append, List.cons_append, List.nil_append, unescape,
    hdigits]
  simp

theorem unescape_escapeBytes (bs : List UInt8) (cs : List Char) :
    unescape (bs.flatMap escapeByte ++ cs) = bs ++ unescape cs := by
  induction bs with
  | nil => rfl
  | cons b bs ih =>
      rw [List.flatMap_cons, List.append_assoc, unescape_escapeByte, ih, List.cons_append]

theorem unescape_of_ne {c : Char} (h : c ≠ '%') (cs : List Char) :
    unescape (c :: cs) = String.utf8EncodeChar c ++ unescape cs := by
  rw [unescape]
  exact fun a b rest heq => absurd heq h

/-- Texts are read back if the percent sign does not stand for itself. -/
theorem unescape_escapeUnless {keeps : Char → Bool} (hpercent : keeps '%' = false)
    (s : String) : unescape (escapeUnless keeps s.toList) = bytesOf s := by
  rw [bytesOf_eq]
  induction s.toList with
  | nil => rfl
  | cons c cs ih =>
      change unescape ((if keeps c then [c] else escapeChar c) ++ escapeUnless keeps cs) =
        String.utf8EncodeChar c ++ cs.flatMap String.utf8EncodeChar
      rw [← ih]
      by_cases hkept : keeps c = true
      · have hne : c ≠ '%' := by
          rintro rfl
          simp [hpercent] at hkept
        rw [if_pos hkept, List.singleton_append, unescape_of_ne hne]
      · rw [if_neg hkept, escapeChar, unescape_escapeBytes]

/-- The characters that escapes are made of. -/
def isEscaping (c : Char) : Bool :=
  c = '%' || c.isDigit || ('A' ≤ c && c ≤ 'F')

theorem isEscaping_capitalDigit {n : Nat} (h : n < 16) : isEscaping (capitalDigit n) = true := by
  revert n
  decide

theorem isEscaping_of_mem_escapeByte {b : UInt8} {c : Char} (h : c ∈ escapeByte b) :
    isEscaping c = true := by
  have hb : b.toNat < 256 := b.toNat_lt
  simp only [escapeByte, List.mem_cons, List.not_mem_nil, or_false] at h
  rcases h with rfl | rfl | rfl
  · rfl
  · exact isEscaping_capitalDigit (by omega)
  · exact isEscaping_capitalDigit (Nat.mod_lt _ (by omega))

theorem isEscaping_of_mem_escapeChar {c d : Char} (h : d ∈ escapeChar c) : isEscaping d = true := by
  obtain ⟨b, -, hd⟩ := List.mem_flatMap.mp h
  exact isEscaping_of_mem_escapeByte hd

/-- In an escaped text there are escapes and what is kept. -/
theorem kept_of_mem_escapeUnless {keeps : Char → Bool} {cs : List Char} {c : Char}
    (h : c ∈ escapeUnless keeps cs) (hescaping : isEscaping c = false) :
    keeps c = true ∧ c ∈ cs := by
  obtain ⟨d, hd, hc⟩ := List.mem_flatMap.mp h
  by_cases hkept : keeps d = true
  · rw [if_pos hkept, List.mem_singleton] at hc
    exact hc ▸ ⟨hkept, hd⟩
  · rw [if_neg hkept] at hc
    simp [isEscaping_of_mem_escapeChar hc] at hescaping

/-! ## Pieces between marks -/

namespace Address

variable {α : Type} {p : α → Bool}

theorem splitBy_ne_nil (xs : List α) : splitBy p xs ≠ [] := by
  cases xs with
  | nil => simp [splitBy]
  | cons x xs =>
      rw [splitBy]
      split
      · simp
      · split <;> simp

/-- A mark ends the last piece before it. -/
theorem splitBy_append_cons {mark : α} (hmark : p mark = true) (xs ys : List α) :
    splitBy p (xs ++ mark :: ys) = splitBy p xs ++ splitBy p ys := by
  induction xs with
  | nil => simp [splitBy, hmark]
  | cons x xs ih =>
      rw [List.cons_append, splitBy, splitBy, ih]
      by_cases hx : p x = true
      · simp [hx]
      · cases hxs : splitBy p xs with
        | nil => exact absurd hxs (splitBy_ne_nil xs)
        | cons piece more => simp [hx]

/-- A text without marks is one piece. -/
theorem splitBy_of_none {xs : List α} (h : ∀ x ∈ xs, p x = false) : splitBy p xs = [xs] := by
  induction xs with
  | nil => rfl
  | cons x xs ih =>
      obtain ⟨hx, hxs⟩ := List.forall_mem_cons.mp h
      simp [splitBy, hx, ih hxs]

/-- The pieces hold no marks, and nothing that was not there. -/
theorem of_mem_splitBy {xs piece : List α} (h : piece ∈ splitBy p xs) {x : α} (hx : x ∈ piece) :
    p x = false ∧ x ∈ xs := by
  induction xs generalizing piece with
  | nil =>
      obtain rfl := List.mem_singleton.mp h
      simp at hx
  | cons y ys ih =>
      rw [splitBy] at h
      by_cases hy : p y = true
      · rw [if_pos hy] at h
        rcases List.mem_cons.mp h with rfl | h
        · simp at hx
        · exact (ih h hx).imp id (List.mem_cons_of_mem _)
      · rw [if_neg hy] at h
        cases hys : splitBy p ys with
        | nil => exact absurd hys (splitBy_ne_nil ys)
        | cons first more =>
            rw [hys] at h ih
            rcases List.mem_cons.mp h with rfl | h
            · rcases List.mem_cons.mp hx with rfl | hx
              · exact ⟨by simpa using hy, List.mem_cons_self⟩
              · exact (ih List.mem_cons_self hx).imp id (List.mem_cons_of_mem _)
            · exact (ih (List.mem_cons_of_mem _ h) hx).imp id (List.mem_cons_of_mem _)

end Address

/-! ## Pairs of a query -/

/-- The text that stands in a form. Plus signs are spaces. -/
def formText? (cs : List Char) : Option String :=
  String.fromUTF8? ⟨(unescape (cs.map fun c => if c = '+' then ' ' else c)).toArray⟩

/-- The name before the first equals sign and the value after it. -/
def formPair? (cs : List Char) : Option (String × String) := do
  let name ← formText? (cs.takeWhile (· != '='))
  let value ← formText? ((cs.dropWhile (· != '=')).drop 1)
  return (name, value)

/-- The pairs of a query, as a form is read. Pieces without characters count for nothing. -/
def readPairs? (query : String) : Option (List (String × String)) :=
  ((Address.splitBy (· = '&') query.toList).filter (!·.isEmpty)).mapM formPair?

/-- The pairs of an address. Without a query there are none. -/
def Address.pairs? (a : Address) : Option (List (String × String)) :=
  readPairs? (a.query.getD "")

theorem keptInForm_of_mark {c : Char} (h : c ∈ ['%', '+', '&', '=']) : keptInForm c = false := by
  obtain rfl | rfl | rfl | rfl : c = '%' ∨ c = '+' ∨ c = '&' ∨ c = '=' := by
    simpa using h
  all_goals rfl

/-- But for the spaces a form escapes like the other parts of an address. -/
theorem map_encodeForm (s : String) :
    (encodeForm s).map (fun c => if c = '+' then ' ' else c) =
      escapeUnless (fun c => c = ' ' || keptInForm c) s.toList := by
  rw [encodeForm, escapeUnless, List.map_flatMap]
  congr 1
  funext c
  by_cases hspace : c = ' '
  · simp [hspace]
  · have hescape : (escapeChar c).map (fun c => if c = '+' then ' ' else c) = escapeChar c := by
      refine List.map_congr_left (fun d hd => if_neg ?_) |>.trans (List.map_id _)
      rintro rfl
      exact absurd (isEscaping_of_mem_escapeChar hd) (by decide)
    by_cases hkept : keptInForm c = true
    · have hplus : c ≠ '+' := by
        rintro rfl
        simp [keptInForm_of_mark] at hkept
      simp [hspace, hkept, hplus]
    · simp [hspace, hkept, hescape]

theorem formText?_encodeForm (s : String) : formText? (encodeForm s) = some s := by
  rw [formText?, map_encodeForm, unescape_escapeUnless (by decide), fromUTF8?_bytesOf]

/-- The signs between names, values and pairs do not stand in them. -/
theorem notMem_encodeForm {mark : Char} (hmark : mark ∈ ['&', '=']) (s : String) :
    mark ∉ encodeForm s := by
  intro hmem
  obtain ⟨c, -, hc⟩ := List.mem_flatMap.mp hmem
  obtain ⟨hplus, hescaping, hkept⟩ :
      mark ≠ '+' ∧ isEscaping mark = false ∧ keptInForm mark = false := by
    obtain rfl | rfl : mark = '&' ∨ mark = '=' := by
      simpa using hmark
    all_goals decide
  by_cases hspace : c = ' '
  · simp [hspace, hplus] at hc
  · by_cases hc' : keptInForm c = true
    · simp only [hspace, hc', if_false, if_true, List.mem_singleton] at hc
      simp [hc, hc'] at hkept
    · rw [if_neg hspace, if_neg hc'] at hc
      simp [isEscaping_of_mem_escapeChar hc] at hescaping

theorem formPair?_pair (name value : String) :
    formPair? (encodeForm name ++ '=' :: encodeForm value) = some (name, value) := by
  have hname : ∀ c ∈ encodeForm name, (c != '=') = true := by
    intro c hc
    simpa using fun heq : c = '=' => notMem_encodeForm (by decide) name (heq ▸ hc)
  have htake : (encodeForm name ++ '=' :: encodeForm value).takeWhile (· != '=') =
      encodeForm name := by
    rw [List.takeWhile_append_of_pos hname]
    simp
  have hdrop : (encodeForm name ++ '=' :: encodeForm value).dropWhile (· != '=') =
      '=' :: encodeForm value := by
    rw [List.dropWhile_append_of_pos hname]
    simp
  simp [formPair?, htake, hdrop, formText?_encodeForm]

theorem filter_splitBy_pair (name value : String) :
    (Address.splitBy (· = '&') (encodeForm name ++ '=' :: encodeForm value)).filter (!·.isEmpty) =
      [encodeForm name ++ '=' :: encodeForm value] := by
  have hnone : ∀ c ∈ encodeForm name ++ '=' :: encodeForm value, decide (c = '&') = false := by
    rintro c hc
    rw [decide_eq_false_iff_not]
    rintro rfl
    rcases List.mem_append.mp hc with hc | hc
    · exact notMem_encodeForm (by decide) name hc
    · rcases List.mem_cons.mp hc with hc | hc
      · exact absurd hc (by decide)
      · exact notMem_encodeForm (by decide) value hc
  rw [Address.splitBy_of_none hnone]
  simp

theorem readPairs?_pair (name value : String) :
    readPairs? (String.ofList (encodeForm name ++ '=' :: encodeForm value)) =
      some [(name, value)] := by
  rw [readPairs?, String.toList_ofList, filter_splitBy_pair]
  simp [formPair?_pair]

theorem readPairs?_append (query more : String) :
    readPairs? (query ++ "&" ++ more) =
      do return (← readPairs? query) ++ (← readPairs? more) := by
  have htext : (query ++ "&" ++ more).toList = query.toList ++ '&' :: more.toList := by
    simp
  rw [readPairs?, htext, Address.splitBy_append_cons (by rfl), List.filter_append,
    List.mapM_append, readPairs?, readPairs?]

theorem readPairs?_empty : readPairs? "" = some [] := by
  simp [readPairs?, Address.splitBy]

/-- A pair that is added to a query is read after the pairs that were there. -/
theorem Address.pairs?_addPair (a : Address) (name value : String) :
    (a.addPair name value).pairs? = a.pairs?.map (· ++ [(name, value)]) := by
  simp only [pairs?, addPair]
  split
  · next hquery =>
    rw [hquery, Option.getD_some, Option.getD_none, readPairs?_pair, readPairs?_empty]
    rfl
  · next hquery =>
    rw [hquery, Option.getD_some, Option.getD_some, readPairs?_pair, readPairs?_empty]
    rfl
  · next q _ hquery =>
    rw [hquery, Option.getD_some, Option.getD_some, readPairs?_append, readPairs?_pair]
    cases readPairs? q <;> rfl

end GroupKeeper.Rest
