import GroupKeeper.Text.Lowercase
import GroupKeeper.Text.VariantTables

/-! Plain characters. Wide, raised, joined and decorated characters, and capitals, are shapes of
plain ones. -/

namespace GroupKeeper.Text

/-- The characters that a small letter is a shape of. -/
def plainSmall (c : Char) : List Char :=
  match variantShifts.findSome? (·.image? c) with
  | some d => [d]
  | none => (variantImages.findSome? (·.image? c)).getD [c]

/-- The plain characters that a character is a shape of. -/
def plain (c : Char) : List Char := (lowerChar c).flatMap plainSmall

end GroupKeeper.Text
