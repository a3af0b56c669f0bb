import GroupKeeper.Data.Basic

/-! Numerals of JSON texts. A whole number that fits 64 bits is kept; any other number becomes
binary floating point: its leading digits that fit 64 bits are scaled by a power of ten. -/

namespace GroupKeeper.Json

/-- A numeral as it is written. -/
structure Numeral where
  negative : Bool
  whole : List Nat
  fraction : Option (List Nat)
  /-- The sign of the exponent (`true` for a minus) and its digits. -/
  exponent : Option (Bool × List Nat)
  deriving Repr

/-- The value of a decimal digit. -/
def digit? (c : Char) : Option Nat :=
  if '0' ≤ c ∧ c ≤ '9' then some (c.toNat - '0'.toNat) else none

/-- The digits at the start of a text, and the rest. -/
def takeDigits : List Char → List Nat × List Char
  | [] => ([], [])
  | c :: cs => match digit? c with
    | some d => let (ds, rest) := takeDigits cs; (d :: ds, rest)
    | none => ([], c :: cs)

/-- The exponent part at the start of a text: nothing, or a letter, a sign and at least one
digit. -/
def takeExponent : List Char → Option (Option (Bool × List Nat) × List Char)
  | c :: cs =>
    if c = 'e' ∨ c = 'E' then
      let (minus, cs) := match cs with
        | '+' :: cs => (false, cs)
        | '-' :: cs => (true, cs)
        | cs => (false, cs)
      match takeDigits cs with
      | ([], _) => none
      | (ds, rest) => some (some (minus, ds), rest)
    else some (none, c :: cs)
  | [] => some (none, [])

/-- The fraction at the start of a text: nothing, or a point and at least one digit. -/
def takeFraction : List Char → Option (Option (List Nat) × List Char)
  | '.' :: cs => match takeDigits cs with
    | ([], _) => none
    | (ds, rest) => some (some ds, rest)
  | cs => some (none, cs)

/-- The numeral at the start of a text. A leading zero stands alone. -/
def takeNumeral (cs : List Char) : Option (Numeral × List Char) := do
  let (negative, cs) := match cs with
    | '-' :: cs => (true, cs)
    | cs => (false, cs)
  let (whole, cs) := takeDigits cs
  guard (whole.length = 1 ∨ 1 < whole.length ∧ whole.head? ≠ some 0)
  let (fraction, cs) ← takeFraction cs
  let (exponent, cs) ← takeExponent cs
  return (⟨negative, whole, fraction, exponent⟩, cs)

/-- The largest number of 64 bits. -/
def wordMax : Nat := Nat.pow 2 64 - 1

/-- Appends digits to a number while it fits 64 bits. Gives the number, how many digits went in, and
the digits left over. -/
def absorb (n : Nat) : List Nat → Nat × Nat × List Nat
  | [] => (n, 0, [])
  | d :: ds =>
    if n * 10 + d ≤ wordMax then
      let (n', taken, rest) := absorb (n * 10 + d) ds
      (n', taken + 1, rest)
    else (n, 0, d :: ds)

/-- The power of ten with a given exponent, rounded. -/
def powerOfTen (k : Nat) : Float :=
  Float.ofScientific 1 false k

/-- Scales `f` by `10 ^ e`, in steps that stay in range. None if the result is too large. -/
def scale (f : Float) (e : Int) : (steps : Nat) → Option Float
  | 0 => some f
  | steps + 1 =>
    if e.natAbs ≤ 308 then
      if 0 ≤ e then
        let g := f * powerOfTen e.natAbs
        if g.isInf then none else some g
      else some (f / powerOfTen e.natAbs)
    else if f == 0.0 then some f
    else if 0 ≤ e then none
    else scale (f / powerOfTen 308) (e + 308) steps

/-- The floating point number `± n · 10 ^ e`. -/
def realOfParts (negative : Bool) (n : Nat) (e : Int) : Option Number := do
  let f ← scale n.toUInt64.toFloat e (e.natAbs / 308 + 2)
  return .real (if negative then -f else f).toBits

/-- The largest exponent that is counted. -/
def exponentMax : Nat := Nat.pow 2 31 - 1

/-- The value of digits. -/
def digitsValue (ds : List Nat) : Nat :=
  ds.foldl (fun n d => n * 10 + d) 0

/-- The number `± n · 10 ^ e` with a written exponent added to `e`. -/
def realWithExponent (negative : Bool) (n : Nat) (e : Int) :
    Option (Bool × List Nat) → Option Number
  | none => realOfParts negative n e
  | some (minus, ds) =>
    let x := digitsValue ds
    if exponentMax < x then
      if n ≠ 0 ∧ ¬minus then none
      else some (.real (if negative then -0.0 else 0.0 : Float).toBits)
    else
      let sum := if minus then e - x else e + x
      realOfParts negative n (max (-(exponentMax + 1 : Int)) (min (exponentMax : Int) sum))

/-- The number that a numeral stands for. None if it is too large for floating point. -/
def Numeral.value? (x : Numeral) : Option Number :=
  let (n, _, left) := absorb 0 x.whole
  let before := left.length
  match x.fraction with
  | some ds =>
    let (n, after, _) := absorb n ds
    realWithExponent x.negative n ((before : Int) - after) x.exponent
  | none =>
    if x.exponent.isSome ∨ before ≠ 0 then realWithExponent x.negative n before x.exponent
    else if ¬x.negative then some (.whole n)
    else if n = 0 ∨ Nat.pow 2 63 < n then some (.real (-n.toUInt64.toFloat).toBits)
    else some (.whole (-n))

end GroupKeeper.Json
