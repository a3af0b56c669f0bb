import GroupKeeper.Yaml.Cell
import GroupKeeper.Yaml.Token
import GroupKeeper.Text.Digits

/-! Tags, anchors and directives at the start of a text. -/

namespace GroupKeeper.Yaml.Token

/-- Characters of names. -/
def isNameChar (c : Char) : Bool := c.isAlphanum || c = '_' || c = '-'

/-- The name of an anchor after its indicator. -/
def takeName (cs : List Cell) : Option (String × List Cell) := do
  let (name, rest) := Cell.takeWhile isNameChar cs
  guard !name.isEmpty
  let next := Cell.first? rest
  guard (isGap next || next.any (['?', ':', ',', ']', '\x7d', '%', '@', '`'].contains ·))
  return (String.ofList name, rest)

/-- How many further bytes a character has, by its first byte; and the bits of it in that byte. -/
def leadByte? (b : Nat) : Option (Nat × Nat) :=
  if b < 0x80 then some (0, b)
  else if 0xC0 ≤ b ∧ b < 0xE0 then some (1, b - 0xC0)
  else if 0xE0 ≤ b ∧ b < 0xF0 then some (2, b - 0xE0)
  else if 0xF0 ≤ b ∧ b < 0xF8 then some (3, b - 0xF0)
  else none

/-- A byte as a percent sign and two digits. -/
def takeByte : List Cell → Option (Nat × List Cell)
  | p :: a :: b :: cs => do
    guard (p.char = '%')
    return (← Text.digits? 16 [a.char, b.char], cs)
  | _ => none

/-- The further bytes of a character. -/
def takeBytes (value : Nat) : Nat → List Cell → Option (Nat × List Cell)
  | 0, cs => some (value, cs)
  | n + 1, cs => do
    let (b, cs) ← takeByte cs
    guard (0x80 ≤ b ∧ b < 0xC0)
    takeBytes (64 * value + (b - 0x80)) n cs

/-- A character that is written byte by byte. -/
def takeEscapedChar (cs : List Cell) : Option (Char × List Cell) := do
  let (b, cs) ← takeByte cs
  let (more, bits) ← leadByte? b
  let (n, cs) ← takeBytes bits more cs
  return (if more ≠ 0 ∧ n < 0x80 then '\ufffd' else Char.ofNat n, cs)

/-- Characters of a tag. Within angle brackets more of them are possible. -/
def isTagChar (verbatim : Bool) (c : Char) : Bool :=
  isNameChar c
    || [';', '/', '?', ':', '@', '&', '=', '+', '$', '.', '!', '~', '*', '\'', '(', ')'].contains c
    || (verbatim && [',', '[', ']'].contains c)

/-- The characters of a tag, with escapes. -/
def takeTagChars (verbatim : Bool) : (fuel : Nat) → List Cell → Option (List Char × List Cell)
  | 0, _ => none
  | fuel + 1, cs => match cs with
    | [] => some ([], [])
    | c :: rest =>
      if c.char = '%' then do
        let (e, rest) ← takeEscapedChar cs
        let (t, rest) ← takeTagChars verbatim fuel rest
        return (e :: t, rest)
      else if isTagChar verbatim c.char then do
        let (t, rest) ← takeTagChars verbatim fuel rest
        return (c.char :: t, rest)
      else some ([], cs)

/-- The characters of a tag. There has to be one. -/
def takeTagText (verbatim : Bool) (cs : List Cell) : Option (String × List Cell) := do
  let (t, rest) ← takeTagChars verbatim (cs.length + 1) cs
  guard !t.isEmpty
  return (String.ofList t, rest)

/-- A handle: two exclamation marks with a name between them, or a single one. The flag says whether
the second one is there. -/
def takeHandle : List Cell → Option (List Char × Bool × List Cell)
  | [] => none
  | c :: cs =>
    if c.char = '!' then
      let (name, rest) := Cell.takeWhile isNameChar cs
      if Cell.startsWith '!' rest then some ('!' :: name ++ ['!'], true, rest.drop 1)
      else some ('!' :: name, false, rest)
    else none

/-- A tag before its end has been looked at. -/
def takeTagBody (cs : List Cell) : Option (Token × List Cell) := do
  if Cell.startsWith '<' (cs.drop 1) then
    let (suffix, rest) ← takeTagText true (cs.drop 2)
    guard (Cell.startsWith '>' rest)
    return (.tag "" suffix, rest.drop 1)
  else
    let (handle, closed, rest) ← takeHandle cs
    if closed then
      let (suffix, rest) ← takeTagText false rest
      return (.tag (String.ofList handle) suffix, rest)
    else
      let (more, rest) ← takeTagChars false (rest.length + 1) rest
      let suffix := String.ofList (handle.drop 1 ++ more)
      return (if suffix.isEmpty then .tag "" "!" else .tag "!" suffix, rest)

/-- A tag. It ends at a gap or, within brackets, at a comma. -/
def takeTag (flow : Bool) (cs : List Cell) : Option (Token × List Cell) := do
  let (t, rest) ← takeTagBody cs
  guard (isGap (Cell.first? rest) || (flow && Cell.startsWith ',' rest))
  return (t, rest)

/-- The greatest number of digits in a version. -/
def versionDigits : Nat := 9

/-- A number of a version. -/
def takeVersionNumber (cs : List Cell) : Option (Nat × List Cell) := do
  let (ds, rest) := Cell.takeWhile Char.isDigit cs
  guard (ds.length ≤ versionDigits)
  return (← Text.digits? 10 ds, rest)

/-- The version after its directive's name. -/
def takeVersion (cs : List Cell) : Option (Token × List Cell) := do
  let (major, rest) ← takeVersionNumber (Cell.dropBlanks cs)
  guard (Cell.startsWith '.' rest)
  let (minor, rest) ← takeVersionNumber (rest.drop 1)
  return (.version major minor, rest)

/-- A handle for tags after its directive's name. -/
def takeTagHandle (cs : List Cell) : Option (Token × List Cell) := do
  let (handle, closed, rest) ← takeHandle (Cell.dropBlanks cs)
  guard (closed || handle = ['!'])
  guard (Cell.startsBlank rest)
  let (stem, rest) ← takeTagText true (Cell.dropBlanks rest)
  guard (isGap (Cell.first? rest))
  return (.tagHandle (String.ofList handle) stem, rest)

/-- A directive after its indicator, up to the end of its line. -/
def takeDirective (cs : List Cell) : Option (Token × List Cell) := do
  let (name, rest) := Cell.takeWhile isNameChar cs
  guard (isGap (Cell.first? rest))
  let (t, rest) ←
    if name = ['Y', 'A', 'M', 'L'] then takeVersion rest
    else if name = ['T', 'A', 'G'] then takeTagHandle rest
    else none
  return (t, ← Cell.dropLine? rest)

end GroupKeeper.Yaml.Token
