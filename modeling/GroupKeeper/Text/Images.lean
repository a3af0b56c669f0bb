/-! Maps of characters given by rows. -/

namespace GroupKeeper.Text

/-- A row of a table that moves characters: every `step`-th character from `first` to `last` moves
by `shift`. -/
structure Shift where
  first : Nat
  last : Nat
  step : Nat
  shift : Int
  deriving Repr, DecidableEq

/-- The character that a row gives for `c`, if the row holds `c`. -/
def Shift.image? (row : Shift) (c : Char) : Option Char :=
  if row.first ≤ c.toNat ∧ c.toNat ≤ row.last ∧ (c.toNat - row.first) % row.step = 0 then
    some (Char.ofNat ((c.toNat : Int) + row.shift).toNat)
  else none

/-- A row of a table that replaces characters: the one with the code `first` and those after it,
each by the characters with the given codes. -/
structure Images where
  first : Nat
  codes : List (List Nat)
  deriving Repr, DecidableEq

/-- The row of replacements that are written out. -/
def Images.ofTexts (first : Nat) (texts : List String) : Images :=
  ⟨first, texts.map fun s => s.toList.map Char.toNat⟩

/-- The characters that a row gives for `c`, if the row holds `c`. -/
def Images.image? (row : Images) (c : Char) : Option (List Char) :=
  if row.first ≤ c.toNat then
    (row.codes[c.toNat - row.first]?).map (·.map Char.ofNat)
  else none

end GroupKeeper.Text
