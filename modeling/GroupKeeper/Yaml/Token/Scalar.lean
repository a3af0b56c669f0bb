import GroupKeeper.Yaml.Cell
import GroupKeeper.Yaml.Token
import GroupKeeper.Text.Digits

/-! Scalars at the start of a text: plain ones, quoted ones, and blocks of lines. Lines of a scalar
are joined: a single line end stands for a space, and of several the first is dropped. -/

namespace GroupKeeper.Yaml.Token

/-- What stands between two words of a scalar. -/
inductive Gap where
  /-- Spaces and tabs on one line. -/
  | blanks (cs : List Char)
  /-- Line ends, the first of which may be escaped. -/
  | breaks (first : List Char) (more : List Char)

/-- What a gap stands for. -/
def Gap.text : Gap → List Char
  | blanks cs => cs
  | breaks ['\n'] [] => [' ']
  | breaks ['\n'] more => more
  | breaks first more => first ++ more

/-- Whether a gap reaches a new line. -/
def Gap.hasBreak : Gap → Bool
  | blanks _ => false
  | breaks .. => true

/-- Whether there is nothing in a gap. -/
def Gap.isEmpty : Gap → Bool
  | blanks cs => cs.isEmpty
  | breaks .. => false

/-- The line ends that follow a first one, with the blanks around them. A tab may not stand left of
the given column. -/
def takeBreaks (minColumn : Nat) (more : List Char) : (fuel : Nat) → List Cell →
    Option (List Char × List Cell)
  | 0, cs => some (more, cs)
  | fuel + 1, cs => match cs with
    | [] => some (more, [])
    | c :: rest =>
      if c.char = '\t' && c.column < minColumn then none
      else if isBlank c.char then takeBreaks minColumn more fuel rest
      else if isBreak c.char then
        let (b, rest) := Cell.takeBreak cs
        takeBreaks minColumn (more ++ b) fuel rest
      else some (more, cs)

/-- Blanks and line ends. -/
def takeGap (minColumn : Nat) (cs : List Cell) : Option (Gap × List Cell) :=
  let (blanks, rest) := Cell.takeWhile isBlank cs
  if Cell.startsBreak rest then do
    let (first, rest) := Cell.takeBreak rest
    let (more, rest) ← takeBreaks minColumn [] rest.length rest
    return (.breaks first more, rest)
  else some (.blanks blanks, rest)

/-- Characters that enclose or separate nodes within brackets. -/
def isBracket (c : Char) : Bool := [',', '[', ']', '\x7b', '\x7d'].contains c

/-- The characters of a plain scalar up to a gap or an indicator. Within brackets a colon may not
stand before an indicator. -/
def takeWord (flow : Bool) : List Cell → Option (List Char × List Cell)
  | [] => some ([], [])
  | c :: cs =>
    let next := Cell.first? cs
    if isGap (some c.char) then some ([], c :: cs)
    else if flow && c.char = ':' && next.any (fun n => isBracket n || n = '?') then none
    else if (c.char = ':' && isGap next) || (flow && isBracket c.char) then some ([], c :: cs)
    else do
      let (w, rest) ← takeWord flow cs
      return (c.char :: w, rest)

/-- The rest of a plain scalar: its text, whether a new line was begun after it, and what follows.
`pending` is the gap before. -/
def takePlainAfter (flow : Bool) (indent : Nat) (pending : Gap) : (fuel : Nat) → List Cell →
    Option (List Char × Bool × List Cell)
  | 0, _ => none
  | fuel + 1, cs =>
    if Cell.startsDocumentMark cs || Cell.startsWith '#' cs then
      some ([], pending.hasBreak, cs)
    else do
      let (word, rest) ← takeWord flow cs
      if word.isEmpty then return ([], pending.hasBreak, rest)
      else
        let before := pending.text ++ word
        let (gap, after) ← takeGap indent rest
        if gap.isEmpty then return (before, false, rest)
        else if !flow && gap.hasBreak && Cell.startColumn after < indent then
          return (before, true, after)
        else
          let (text, broken, rest) ← takePlainAfter flow indent gap fuel after
          return (before ++ text, broken, rest)

/-- A plain scalar, whose further lines stand at the given column at least. -/
def takePlain (flow : Bool) (indent : Nat) (cs : List Cell) :
    Option (Token × Bool × List Cell) := do
  let (text, broken, rest) ← takePlainAfter flow indent (.blanks []) (cs.length + 1) cs
  return (.scalar .plain (String.ofList text), broken, rest)

/-- The character of a short escape. -/
def shortEscape? (c : Char) : Option Char :=
  [('0', '\x00'), ('a', '\x07'), ('b', '\x08'), ('t', '\t'), ('\t', '\t'), ('n', '\n'),
    ('v', '\x0b'), ('f', '\x0c'), ('r', '\r'), ('e', '\x1b'), (' ', ' '), ('"', '"'), ('/', '/'),
    ('\\', '\\'), ('N', '\u0085'), ('_', '\u00a0'), ('L', '\u2028'), ('P', '\u2029')].lookup c

/-- How many digits follow the letter of a long escape. -/
def escapeLength? (c : Char) : Option Nat :=
  [('x', 2), ('u', 4), ('U', 8)].lookup c

/-- The character of an escape after its backslash. -/
def takeEscape : List Cell → Option (Char × List Cell)
  | [] => none
  | c :: cs => match shortEscape? c.char with
    | some e => some (e, cs)
    | none => do
      let length ← escapeLength? c.char
      let ds := (cs.take length).map (·.char)
      guard (ds.length = length)
      let n ← Text.digits? 16 ds
      guard (n.isValidChar)
      return (Char.ofNat n, cs.drop length)

/-- What follows the words of a quoted scalar on a line. -/
inductive QuotedStop where
  | gap
  /-- A line end after a backslash. -/
  | escapedBreak
  | quote

/-- The characters of a quoted scalar up to a gap, an escaped line end or the closing quote. -/
def takeQuotedWord (single : Bool) : (fuel : Nat) → List Cell →
    Option (List Char × QuotedStop × List Cell)
  | 0, _ => none
  | fuel + 1, cs => match cs with
    | [] => none
    | c :: rest =>
      if isGap (some c.char) then some ([], .gap, cs)
      else if single then
        if c.char = '\'' then
          if Cell.startsWith '\'' rest then do
            let (w, stop, rest) ← takeQuotedWord single fuel (rest.drop 1)
            return ('\'' :: w, stop, rest)
          else some ([], .quote, rest)
        else do
          let (w, stop, rest) ← takeQuotedWord single fuel rest
          return (c.char :: w, stop, rest)
      else if c.char = '"' then some ([], .quote, rest)
      else if c.char = '\\' then
        if Cell.startsBreak rest then some ([], .escapedBreak, (Cell.takeBreak rest).2)
        else do
          let (e, rest) ← takeEscape rest
          let (w, stop, rest) ← takeQuotedWord single fuel rest
          return (e :: w, stop, rest)
      else do
        let (w, stop, rest) ← takeQuotedWord single fuel rest
        return (c.char :: w, stop, rest)

/-- The rest of a quoted scalar. No document may start or end within it. -/
def takeQuotedText (single : Bool) : (fuel : Nat) → List Cell → Option (List Char × List Cell)
  | 0, _ => none
  | fuel + 1, cs =>
    if Cell.startsDocumentMark cs then none
    else do
      let (word, stop, rest) ← takeQuotedWord single (cs.length + 1) cs
      match stop with
      | .quote => return (word, rest)
      | .gap =>
        let (gap, rest) ← takeGap 0 rest
        let (text, rest) ← takeQuotedText single fuel rest
        return (word ++ gap.text ++ text, rest)
      | .escapedBreak =>
        let (more, rest) ← takeBreaks 0 [] rest.length rest
        let (text, rest) ← takeQuotedText single fuel rest
        return (word ++ more ++ text, rest)

/-- A quoted scalar after its opening quote. -/
def takeQuoted (single : Bool) (cs : List Cell) : Option (Token × List Cell) := do
  let (text, rest) ← takeQuotedText single (cs.length + 1) cs
  return (.scalar .quoted (String.ofList text), rest)

/-- What happens to the line ends at the end of a block. -/
inductive Chomp where
  | clip
  | strip
  | keep
  deriving DecidableEq

/-- The mark for the line ends of a block. -/
def takeChomp : List Cell → Option Chomp × List Cell
  | [] => (none, [])
  | c :: cs =>
    if c.char = '+' then (some .keep, cs)
    else if c.char = '-' then (some .strip, cs)
    else (none, c :: cs)

/-- The mark for the indentation of a block. Fails on a zero. -/
def takeIndentMark : List Cell → Option (Option Nat × List Cell)
  | [] => some (none, [])
  | c :: cs => match Text.digit? 10 c.char with
    | some 0 => none
    | some n => some (some n, cs)
    | none => some (none, c :: cs)

/-- The header of a block: its marks in any order, and the end of the line. -/
def takeHeader (cs : List Cell) : Option (Chomp × Option Nat × List Cell) := do
  let (before, rest) := takeChomp cs
  let (indent, rest) ← takeIndentMark rest
  let (after, rest) :=
    if before.isNone && indent.isSome then takeChomp rest else (none, rest)
  let rest ← Cell.dropLine? rest
  return ((before.or after).getD .clip, indent, rest)

/-- Empty lines before a line of a block. `widest` is the widest indentation so far; the indentation
of the block is not known yet if `indent` is `none`. No tab may stand in the indentation. -/
def takeEmptyLines (indent : Option Nat) (widest : Nat) (lines : List Char) :
    (fuel : Nat) → List Cell → Option (Nat × List Char × List Cell)
  | 0, cs => some (widest, lines, cs)
  | fuel + 1, cs => match cs with
    | [] => some (widest, lines, [])
    | c :: rest =>
      let inIndent := indent.all (c.column < ·)
      let widest := max widest c.column
      if inIndent && c.char = ' ' then
        takeEmptyLines indent (max widest (c.column + 1)) lines fuel rest
      else if inIndent && c.char = '\t' then none
      else if isBreak c.char then
        let (b, rest) := Cell.takeBreak cs
        takeEmptyLines indent widest (lines ++ b) fuel rest
      else some (widest, lines, cs)

/-- The lines of a block from its indentation on. `first` is the end of the line before, `empty` are
the empty lines after it, and `indented` says whether the line before begins with a blank. Gives
the text, and the line ends after it. -/
def takeLines (literal : Bool) (indent : Nat) (first empty : List Char) (indented : Bool) :
    (fuel : Nat) → List Cell → Option (List Char × List Char × List Char × List Cell)
  | 0, _ => none
  | fuel + 1, cs => match cs with
    | [] => some ([], first, empty, [])
    | c :: _ =>
      if c.column = indent then do
        let blank := isBlank c.char
        let joined :=
          if !literal && first = ['\n'] && !indented && !blank then
            if empty.isEmpty then [' '] else []
          else first
        let (line, rest) := Cell.takeWhile (!isBreak ·) cs
        let (next, rest) := Cell.takeBreak rest
        let (_, more, rest) ← takeEmptyLines (some indent) 0 [] rest.length rest
        let (text, first, last, rest) ← takeLines literal indent next more blank fuel rest
        return (joined ++ empty ++ line ++ text, first, last, rest)
      else some ([], first, empty, cs)

/-- A block of lines after its indicator, in a block that stands so far in. -/
def takeBlock (literal : Bool) (outer : Int) (cs : List Cell) : Option (Token × List Cell) := do
  let (chomp, mark, rest) ← takeHeader cs
  let known := mark.map fun n => (if 0 ≤ outer then outer.toNat else 0) + n
  let (widest, empty, rest) ← takeEmptyLines known 0 [] rest.length rest
  let indent := known.getD (max (max widest (outer + 1).toNat) 1)
  let (text, first, last, rest) ← takeLines literal indent [] empty false (rest.length + 1) rest
  let tail := match chomp with
    | .strip => []
    | .clip => first
    | .keep => first ++ last
  return (.scalar (if literal then .literal else .folded) (String.ofList (text ++ tail)), rest)

end GroupKeeper.Yaml.Token
