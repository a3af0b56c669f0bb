import GroupKeeper.Json.Numeral
import GroupKeeper.Text.Digits

/-! What a scalar without quotes looks like. A text that looks like nothing, a truth value or a
number has to be quoted if it is to stay a text. -/

namespace GroupKeeper.Yaml

/-- The texts that stand for nothing. -/
def nullWords : List String := ["null", "Null", "NULL", "~"]

/-- The texts that stand for a truth value. -/
def truthWords : List String := ["true", "True", "TRUE", "false", "False", "FALSE"]

/-- The texts that stand for an infinite number or for none. -/
def specialNumberWords : List String := [
  ".inf", ".Inf", ".INF", "+.inf", "+.Inf", "+.INF", "-.inf", "-.Inf", "-.INF",
  ".nan", ".NaN", ".NAN"]

/-- The base that a numeral is marked with, and its digits. -/
def baseMark : List Char → Nat × List Char
  | '0' :: 'x' :: cs => (16, cs)
  | '0' :: 'o' :: cs => (8, cs)
  | '0' :: 'b' :: cs => (2, cs)
  | cs => (10, cs)

/-- Digits that begin with a zero which does not stand alone. -/
def hasLeadingZero : List Char → Bool
  | '0' :: cs => !cs.isEmpty && cs.all Char.isDigit
  | _ => false

/-- A numeral without its sign. -/
def magnitude? (cs : List Char) : Option Nat :=
  if hasLeadingZero cs then none
  else
    let (base, ds) := baseMark cs
    Text.digits? base ds

/-- The number that a scalar stands for as a whole number without a minus. -/
def natural? : List Char → Option Nat
  | '+' :: cs => magnitude? cs
  | cs => magnitude? cs

/-- A scalar without its sign. -/
def unsigned : List Char → List Char
  | '+' :: cs => cs
  | '-' :: cs => cs
  | cs => cs

/-- Whether a scalar is a whole number of at most 128 bits. -/
def isWhole : List Char → Bool
  | '-' :: cs => (magnitude? cs).any (· ≤ Nat.pow 2 127)
  | cs => (natural? cs).any (· < Nat.pow 2 128)

/-- A decimal numeral, read as a whole number and the power of ten that it is scaled by. -/
def decimal? (cs : List Char) : Option (Nat × Int) :=
  let whole := cs.takeWhile Char.isDigit
  let (fraction, rest) := match cs.dropWhile Char.isDigit with
    | '.' :: cs => (cs.takeWhile Char.isDigit, cs.dropWhile Char.isDigit)
    | cs => ([], cs)
  if whole.isEmpty && fraction.isEmpty then none
  else do
    let n := Json.digitsValue ((whole ++ fraction).filterMap (Text.digit? 10))
    let exponent ← match rest with
      | [] => some (0 : Int)
      | e :: cs =>
        if e = 'e' ∨ e = 'E' then
          match cs with
          | '-' :: cs => (Text.digits? 10 cs).map fun x => -(x : Int)
          | '+' :: cs => (Text.digits? 10 cs).map fun x => (x : Int)
          | cs => (Text.digits? 10 cs).map fun x => (x : Int)
        else none
    return (n, exponent - fraction.length)

/-- The least number that rounds beyond the floating point numbers of 64 bits. -/
def overflow : Nat := (Nat.pow 2 54 - 1) * Nat.pow 2 970

/-- Whether `n · 10 ^ e` is within the range of the floating point numbers of 64 bits. -/
def inRange (n : Nat) (e : Int) : Bool :=
  let size := ((Nat.toDigits 10 n).length : Int) + e
  if n = 0 ∨ size < 300 then true
  else if 320 < size then false
  else if 0 ≤ e then n * Nat.pow 10 e.toNat < overflow
  else n < overflow * Nat.pow 10 (-e).toNat

/-- Whether a scalar is a number with a point or an exponent, or a large whole number. -/
def isReal (cs : List Char) : Bool :=
  !hasLeadingZero (unsigned cs) && (decimal? (unsigned cs)).any fun (n, e) => inRange n e

/-- Whether a scalar without quotes would be taken for something else than a text. Digits after a
leading zero are no number, but other readers may take them for one. -/
def looksTyped (s : String) : Bool :=
  s.isEmpty || nullWords.contains s || truthWords.contains s || specialNumberWords.contains s
    || isWhole s.toList || isReal s.toList || hasLeadingZero (unsigned s.toList)

end GroupKeeper.Yaml
