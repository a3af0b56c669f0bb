/-! The shortest decimal text of a binary floating point number. A number stands for all reals that
round to it, and of the decimals among them the one with the fewest digits is taken, the nearest
where there are two. -/

namespace GroupKeeper.Shortest

/-- A positive real `numerator / denominator`. -/
structure Ratio where
  numerator : Nat
  denominator : Nat

/-- The real `n · 2 ^ q`. -/
def Ratio.scaled (n : Nat) (q : Int) : Ratio :=
  if q < 0 then ⟨n, Nat.pow 2 q.natAbs⟩ else ⟨n * Nat.pow 2 q.natAbs, 1⟩

/-- The real `r / 10 ^ p`. -/
def Ratio.shiftDown (r : Ratio) (p : Int) : Ratio :=
  if p < 0 then ⟨r.numerator * Nat.pow 10 p.natAbs, r.denominator⟩
  else ⟨r.numerator, r.denominator * Nat.pow 10 p.natAbs⟩

/-- The reals that round to one number: between `low` and `high`, with the ends if `closed`. -/
structure Interval where
  low : Ratio
  value : Ratio
  high : Ratio
  closed : Bool

/-- Whether `c · 10 ^ p` lies in the interval. -/
def Interval.holds (i : Interval) (c : Nat) (p : Int) : Bool :=
  let low := i.low.shiftDown p
  let high := i.high.shiftDown p
  if i.closed then
    low.numerator ≤ c * low.denominator && c * high.denominator ≤ high.numerator
  else
    low.numerator < c * low.denominator && c * high.denominator < high.numerator

/-- The multiple of `10 ^ p` in the interval that is nearest to its value, if there is one. -/
def Interval.nearest? (i : Interval) (p : Int) : Option Nat :=
  let v := i.value.shiftDown p
  let below := v.numerator / v.denominator
  let rest := v.numerator % v.denominator
  match i.holds below p, i.holds (below + 1) p with
  | true, true =>
    if 2 * rest < v.denominator || (2 * rest == v.denominator && below % 2 == 0) then some below
    else some (below + 1)
  | true, false => some below
  | false, true => some (below + 1)
  | false, false => none

/-- The first hit on the grids `10 ^ p`, `10 ^ (p - 1)`, …, of which `steps` are tried. -/
def Interval.search (i : Interval) : (steps : Nat) → (p : Int) → Nat × Int
  | 0, p => (0, p)
  | steps + 1, p => match i.nearest? p with
    | some c => (c, p)
    | none => i.search steps (p - 1)

/-- The digits and the decimal exponent of the number with mantissa field `mantissa` and exponent
field `exponent`, not both zero. -/
def decimal (mantissa exponent : Nat) : Nat × Int :=
  let m := if exponent = 0 then mantissa else mantissa + Nat.pow 2 52
  let q : Int := (if exponent = 0 then 1 else (exponent : Int)) - 1077
  let gap := if mantissa = 0 ∧ 1 < exponent then 1 else 2
  let i : Interval :=
    ⟨.scaled (4 * m - gap) q, .scaled (4 * m) q, .scaled (4 * m + 2) q, m % 2 == 0⟩
  i.search 700 309

/-- Writes digits with a decimal exponent: in full up to sixteen places, else with a power of
ten. -/
def layout (digits : Nat) (p : Int) : String :=
  let ds := toString digits
  let n : Int := ds.length
  let point := n + p
  if 0 ≤ p ∧ point ≤ 16 then ds ++ "".pushn '0' p.toNat ++ ".0"
  else if 0 < point ∧ point ≤ 16 then
    String.ofList (ds.toList.take point.toNat) ++ "." ++ String.ofList (ds.toList.drop point.toNat)
  else if -5 < point ∧ point ≤ 0 then "0." ++ "".pushn '0' point.natAbs ++ ds
  else
    let tail := ds.toList.drop 1
    String.ofList (ds.toList.take 1) ++ (if tail.isEmpty then "" else "." ++ String.ofList tail)
      ++ "e" ++ toString (point - 1)

/-- The text of the finite number with the given 64 bits. -/
def render (bits : UInt64) : String :=
  let n := bits.toNat
  let sign := if n / Nat.pow 2 63 = 1 then "-" else ""
  let exponent := n / Nat.pow 2 52 % Nat.pow 2 11
  let mantissa := n % Nat.pow 2 52
  if mantissa = 0 ∧ exponent = 0 then sign ++ "0.0"
  else
    let (digits, p) := decimal mantissa exponent
    sign ++ layout digits p

end GroupKeeper.Shortest
