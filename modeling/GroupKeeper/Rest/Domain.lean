import GroupKeeper.Text.Canonical
import GroupKeeper.Text.Direction
import GroupKeeper.Text.Joining
import GroupKeeper.Text.PrintTables
import GroupKeeper.Text.Punycode
import GroupKeeper.Text.Variants

/-! Domain names. A name is a row of labels between full stops. Names that differ only in the shapes
of their characters are one name, and a label with characters beyond the basic ones is sent in basic
characters. -/

namespace GroupKeeper.Rest.Domain

open Text

/-- The characters that are left out of a name: they change the look of others, or hold a place. -/
def ignoredSpans : Spans := [
  (0xAD, 0xAD), (0x34F, 0x34F), (0x115F, 0x1160), (0x17B4, 0x17B5), (0x180B, 0x180F),
  (0x200B, 0x200B), (0x2060, 0x2064), (0x206A, 0x206F), (0x3164, 0x3164), (0xFE00, 0xFE0F),
  (0xFEFF, 0xFEFF), (0xFFA0, 0xFFA0), (0x1BCA0, 0x1BCA3), (0x1D173, 0x1D17A), (0xE0100, 0xE01EF)]

/-- The characters that show and yet may not stand in a name. Most hold a full stop, or say how
others are put together. -/
def refusedSpans : Spans := [
  (0x2024, 0x2026), (0x2488, 0x249B), (0x2FF0, 0x2FFF), (0x31EF, 0x31EF), (0x33C2, 0x33C2),
  (0x33C7, 0x33C7), (0x33D8, 0x33D8), (0xFE12, 0xFE12), (0xFE19, 0xFE19), (0xFE30, 0xFE30),
  (0xFE52, 0xFE52), (0xFFFC, 0xFFFD), (0x1F100, 0x1F100)]

/-- Whether a plain character may not stand in a name. Which basic characters may is another
question. -/
def isRefused (c : Char) : Bool :=
  !Punycode.isBasic c
    && (refusedSpans.has c || (unprintableSpans.has c && c ≠ joiner && c ≠ nonJoiner))

/-- The plain characters for a character of a name. None if it may not stand in one. -/
def plain? (c : Char) : Option (List Char) :=
  if ignoredSpans.has c then some []
  else
    let cs := plain c
    if cs = [c] && isRefused c then none else some cs

/-- The basic characters that no name holds: controls, the space, and those with a meaning in
addresses. -/
def isReserved (c : Char) : Bool :=
  c.toNat ≤ 0x20 || c.toNat = 0x7F
    || ['%', '#', '/', ':', '<', '>', '?', '@', '[', '\\', ']', '^', '|'].contains c

/-- The start of a label that is sent in basic characters. -/
def mark : List Char := ['x', 'n', '-', '-']

/-- Whether a label is sent in basic characters. -/
def isMarked (label : List Char) : Bool := mark.isPrefixOf label

/-- Whether a label is in the form in which names are compared. -/
def isPlain (label : List Char) : Bool :=
  label.all (fun c => plain? c = some [c]) && composed label = label

/-- The label that a label in basic characters stands for. It must have needed them. -/
def unmarked? (label : List Char) : Option (List Char) := do
  if isMarked label then
    let word ← Punycode.decode? (label.drop mark.length)
    guard (!word.all Punycode.isBasic && isPlain word && !isMarked word)
    return word
  else return label

/-- Whether a label may stand in a name. -/
def isFit (label : List Char) : Bool :=
  !label.head?.any isMark && !label.any isReserved && joinersFit [] label

/-- Whether the directions of labels leave one order to read a name in. There is no doubt if nothing
in it runs to the left. -/
def directionsFit (labels : List (List Char)) : Bool :=
  let directions := labels.map (·.map Direction.ofChar)
  !(directions.any (·.any Direction.isTurning)) || directions.all Direction.areFit

/-- A label in basic characters. -/
def marked (label : List Char) : List Char :=
  if label.all Punycode.isBasic then label else mark ++ Punycode.encode label

/-- The labels of a name. There is always one. -/
def labels : List Char → List (List Char)
  | [] => [[]]
  | c :: cs =>
    if c = '.' then [] :: labels cs
    else match labels cs with
      | [] => [[c]]
      | label :: more => (c :: label) :: more

/-- The form in which a name is sent. None if it is no name. -/
def basic? (name : List Char) : Option String := do
  let plain ← name.mapM plain?
  let given := labels (composed plain.flatten)
  let words ← given.mapM unmarked?
  guard (words.all isFit && directionsFit words)
  return ".".intercalate (given.map fun label => String.ofList (marked label))

end GroupKeeper.Rest.Domain
