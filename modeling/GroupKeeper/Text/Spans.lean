/-! Sets of characters given by runs of code points. -/

namespace GroupKeeper.Text

/-- A set of characters: each pair is the first and the last code point of a run. -/
abbrev Spans := List (Nat × Nat)

/-- A character belongs to a set when some run holds its code point. -/
def Spans.has (spans : Spans) (c : Char) : Bool :=
  spans.any fun (first, last) => first ≤ c.toNat && c.toNat ≤ last

end GroupKeeper.Text
