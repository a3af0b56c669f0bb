/-! Counts written as text: decimal digits, perhaps after a plus. -/

namespace GroupKeeper.Text

/-- One more than the greatest count. -/
def countLimit : Nat := Nat.pow 2 64

/-- The number that decimal digits stand for. There has to be a digit. -/
def decimal? : List Char → Option Nat
  | [] => none
  | cs => cs.foldlM (fun n c => if c.isDigit then some (10 * n + (c.toNat - '0'.toNat)) else none) 0

/-- The count that a text stands for. -/
def count? (s : String) : Option Nat :=
  let digits := match s.toList with
    | '+' :: cs => cs
    | cs => cs
  (decimal? digits).filter (· < countLimit)

end GroupKeeper.Text
