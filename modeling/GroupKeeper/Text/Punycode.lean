/-! Punycode: words of any script in letters, digits and hyphens. The basic characters of a word
come first. The others follow in the order of their codes, each as a number that says how many
places and codes were passed over since the one before. Numbers are written with their lowest digit
first, and how many digits they take adapts to the numbers before. -/

namespace GroupKeeper.Text.Punycode

/-- The number of digits. -/
def base : Nat := 36

/-- The least threshold of a digit. -/
def leastThreshold : Nat := 1

/-- The greatest threshold of a digit. -/
def greatestThreshold : Nat := 26

/-- The bias before the first number. -/
def firstBias : Nat := 72

/-- The first code that is not basic. -/
def firstCode : Nat := 0x80

/-- Whether a character stands for itself. -/
def isBasic (c : Char) : Bool := c.toNat < firstCode

/-- A digit: the letters come before the figures. -/
def digit (n : Nat) : Char :=
  if n < 26 then Char.ofNat ('a'.toNat + n) else Char.ofNat ('0'.toNat + (n - 26))

/-- The number of a digit. -/
def value? (c : Char) : Option Nat :=
  if 'a' ≤ c ∧ c ≤ 'z' then some (c.toNat - 'a'.toNat)
  else if 'A' ≤ c ∧ c ≤ 'Z' then some (c.toNat - 'A'.toNat)
  else if '0' ≤ c ∧ c ≤ '9' then some (c.toNat - '0'.toNat + 26)
  else none

/-- The threshold of the digit at a place: a digit below it is the last one of its number. -/
def threshold (bias place : Nat) : Nat :=
  max leastThreshold (min greatestThreshold (base * place - bias))

theorem leastThreshold_le (bias place : Nat) : 1 ≤ threshold bias place := by
  unfold threshold leastThreshold
  omega

/-- How often a difference is to be cut down until it is small, and what is left of it. -/
def cutDown (delta : Nat) : Nat × Nat :=
  if delta ≤ 455 then (0, delta)
  else
    let (n, rest) := cutDown (delta / (base - leastThreshold))
    (n + 1, rest)
termination_by delta
decreasing_by exact Nat.div_lt_self (by omega) (by decide)

/-- The bias after a number, which was the last of so many, or the very first. -/
def adapt (delta count : Nat) (isFirst : Bool) : Nat :=
  let delta := if isFirst then delta / 700 else delta / 2
  let (n, rest) := cutDown (delta + delta / count)
  base * n + base * rest / (rest + 38)

/-- A number, from the digit at a place on. -/
def encodeNumber (bias place n : Nat) : List Char :=
  let t := threshold bias place
  if n < t then [digit n]
  else digit (t + (n - t) % (base - t)) :: encodeNumber bias (place + 1) ((n - t) / (base - t))
termination_by n
decreasing_by
  have := leastThreshold_le bias place
  exact Nat.lt_of_le_of_lt (Nat.div_le_self _ _) (by omega)

/-- The state of writing a word: the difference since the last number, the bias, and how many
characters have been written. -/
structure State where
  delta : Nat
  bias : Nat
  count : Nat

/-- Passes over the characters of a word, writing those with a code. -/
def encodeCode (basics code : Nat) (s : State) : List Char → List Char × State
  | [] => ([], s)
  | c :: cs =>
    if c.toNat < code then encodeCode basics code { s with delta := s.delta + 1 } cs
    else if c.toNat = code then
      let bias := adapt s.delta (s.count + 1) (s.count = basics)
      let (written, last) := encodeCode basics code ⟨0, bias, s.count + 1⟩ cs
      (encodeNumber s.bias 1 s.delta ++ written, last)
    else encodeCode basics code s cs

/-- Writes the characters with the codes that are given in their order. `next` is the code that
would follow without a difference. -/
def encodeCodes (word : List Char) (basics next : Nat) (s : State) : List Nat → List Char
  | [] => []
  | code :: codes =>
    let (written, s) := encodeCode basics code
      { s with delta := s.delta + (code - next) * (s.count + 1) } word
    written ++ encodeCodes word basics (code + 1) { s with delta := s.delta + 1 } codes

/-- A word in basic characters. -/
def encode (word : List Char) : List Char :=
  let basic := word.filter isBasic
  let codes := ((word.filter (!isBasic ·)).map Char.toNat).mergeSort (· ≤ ·) |>.eraseDups
  (if basic.isEmpty then [] else basic ++ ['-'])
    ++ encodeCodes word basic.length firstCode ⟨0, firstBias, basic.length⟩ codes

/-- A number, from the digit at a place on, which has a weight; and what follows it. -/
def decodeNumber (bias place weight : Nat) : List Char → Option (Nat × List Char)
  | [] => none
  | c :: cs => do
    let d ← value? c
    let t := threshold bias place
    if d < t then return (d * weight, cs)
    else
      let (n, rest) ← decodeNumber bias (place + 1) (weight * (base - t)) cs
      return (d * weight + n, rest)

/-- Whether a number is the code of a character. -/
def isCode (n : Nat) : Bool := n < 0xD800 || (0xE000 ≤ n && n < 0x110000)

/-- Puts the characters that are written as numbers into a word. `place` and `code` say where the
next one goes without a difference. There are at most as many numbers as digits. -/
def decodeFrom (word : List Char) (place code bias : Nat) :
    (fuel : Nat) → List Char → Option (List Char)
  | _, [] => some word
  | 0, _ => none
  | fuel + 1, cs => do
    let (delta, rest) ← decodeNumber bias 1 1 cs
    let count := word.length + 1
    let here := (place + delta) % count
    let code := code + (place + delta) / count
    guard (isCode code)
    decodeFrom (word.insertIdx here (Char.ofNat code)) (here + 1) code
      (adapt delta count (place = 0)) fuel rest

/-- The word that basic characters stand for. -/
def decode? (cs : List Char) : Option (List Char) := do
  guard (cs.all isBasic)
  let tail := (cs.reverse.takeWhile (· != '-')).reverse
  let basic := cs.take (cs.length - tail.length - 1)
  let numbers := if basic.isEmpty then cs else tail
  decodeFrom basic 0 firstCode firstBias numbers.length numbers

end GroupKeeper.Text.Punycode
