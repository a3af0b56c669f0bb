import GroupKeeper.Text.CanonicalTables

/-! Equal spellings. A letter with marks may be one character or several, and marks at different
places of a letter may come in any order. Every text has one composed spelling, in which letters and
marks are one character wherever there is one. -/

namespace GroupKeeper.Text

/-- The place that a mark takes at its letter. Zero for what is no such mark. -/
def combiningClass (c : Char) : Nat :=
  ((combiningClasses.find? fun (_, marks) => marks.has c).map (·.1)).getD 0

/-! ### Syllables

The syllables of the Korean script are composed by rule: of a leading consonant, a vowel, and
perhaps a trailing consonant. -/

/-- The first leading consonant. -/
def leadBase : Nat := 0x1100

/-- The first vowel. -/
def vowelBase : Nat := 0x1161

/-- The place before the first trailing consonant. -/
def trailBase : Nat := 0x11A7

/-- The first syllable. -/
def syllableBase : Nat := 0xAC00

/-- The number of leading consonants. -/
def leadCount : Nat := 19

/-- The number of vowels. -/
def vowelCount : Nat := 21

/-- The number of ways in which a syllable may end. -/
def trailCount : Nat := 28

/-- The parts of a syllable. -/
def syllableParts? (c : Char) : Option (List Char) :=
  let i := c.toNat - syllableBase
  if syllableBase ≤ c.toNat ∧ i < leadCount * vowelCount * trailCount then
    let lead := Char.ofNat (leadBase + i / (vowelCount * trailCount))
    let vowel := Char.ofNat (vowelBase + i / trailCount % vowelCount)
    some (if i % trailCount = 0 then [lead, vowel]
      else [lead, vowel, Char.ofNat (trailBase + i % trailCount)])
  else none

/-- The syllable of two parts: a consonant and a vowel, or a syllable and the consonant that ends
it. -/
def syllable? (a b : Char) : Option Char :=
  let lead := a.toNat - leadBase
  let vowel := b.toNat - vowelBase
  let i := a.toNat - syllableBase
  let trail := b.toNat - trailBase
  if leadBase ≤ a.toNat ∧ lead < leadCount ∧ vowelBase ≤ b.toNat ∧ vowel < vowelCount then
    some (Char.ofNat (syllableBase + (lead * vowelCount + vowel) * trailCount))
  else if syllableBase ≤ a.toNat ∧ i < leadCount * vowelCount * trailCount ∧ i % trailCount = 0
      ∧ trailBase < b.toNat ∧ trail < trailCount then
    some (Char.ofNat (a.toNat + trail))
  else none

/-! ### Taking apart -/

/-- The letter and the mark that a character stands for. -/
def letterAndMark? (c : Char) : Option (Char × Char) :=
  compositions.findSome? fun row =>
    (row.pairs.find? (·.2 = c.toNat)).map fun (letter, _) =>
      (Char.ofNat letter, Char.ofNat row.mark)

/-- The greatest number of marks in one character. -/
def markLimit : Nat := 4

/-- A character with its marks taken off, as many as a number says. -/
def takeApart : Nat → Char → List Char
  | 0, c => [c]
  | n + 1, c => match letterAndMark? c with
    | some (letter, mark) => takeApart n letter ++ [mark]
    | none => [c]

/-- The characters that a character consists of. -/
def parts (c : Char) : List Char :=
  match syllableParts? c with
  | some cs => cs
  | none => match separations.findSome? (·.image? c) with
    | some cs => cs
    | none => takeApart markLimit c

/-- Puts a character before others. A mark goes past marks whose place comes before its own. -/
def placeMark (c : Char) : List Char → List Char
  | [] => [c]
  | d :: ds =>
    if 0 < combiningClass d ∧ combiningClass d < combiningClass c then d :: placeMark c ds
    else c :: d :: ds

/-- The spelling of a text in which every letter stands alone, with its marks in the order of their
places. -/
def separated (cs : List Char) : List Char := (cs.flatMap parts).foldr placeMark []

/-! ### Putting together -/

/-- The character for two others, if there is one. -/
def union? (a b : Char) : Option Char :=
  match syllable? a b with
  | some c => some c
  | none => do
    let row ← compositions.find? (·.mark = b.toNat)
    let (_, code) ← row.pairs.find? (·.1 = a.toNat)
    return Char.ofNat code

/-- Puts a letter and what follows it together. `kept` are the marks that stayed apart so far, the
latest first: a character can only join the letter if none of them takes its place. -/
def uniteFrom (letter : Char) (kept : List Char) : List Char → List Char
  | [] => letter :: kept.reverse
  | c :: cs =>
    let free := kept.head?.all fun k => combiningClass k < combiningClass c
    match if free then union? letter c else none with
    | some joined => uniteFrom joined kept cs
    | none =>
      if combiningClass c = 0 then letter :: kept.reverse ++ uniteFrom c [] cs
      else uniteFrom letter (c :: kept) cs

/-- The spelling of a text in which letters and marks are one character wherever there is one. -/
def composed (cs : List Char) : List Char :=
  match separated cs with
  | [] => []
  | c :: cs => uniteFrom c [] cs

end GroupKeeper.Text
