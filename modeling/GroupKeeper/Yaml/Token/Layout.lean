import GroupKeeper.Yaml.Token.Scalar
import GroupKeeper.Yaml.Token.Property

/-! The tokens of a text. Blocks are opened and closed by indentation. A key without an indicator is
known for one only at the colon after it, so that a place where a key may have begun is kept in mind
until the line ends. -/

namespace GroupKeeper.Yaml

/-- A place where a key may have begun. -/
structure KeyStart where
  line : Nat
  column : Nat
  /-- How many bytes come before. -/
  offset : Nat
  /-- How many tokens come before. -/
  position : Nat
  /-- Whether nothing but a key may stand there. -/
  required : Bool

/-- A text that has been read in part. -/
structure Layout where
  source : List Cell
  /-- The tokens so far, the latest first. -/
  tokens : List Token
  /-- The number of tokens so far. -/
  size : Nat
  /-- The column of the innermost block, or -1. -/
  indent : Int
  /-- The columns of the blocks around it. -/
  outerIndents : List Int
  /-- Where a key may have begun within the innermost brackets. -/
  start : Option KeyStart
  /-- The same for the brackets around them, as many as there are. -/
  outerStarts : List (Option KeyStart)
  /-- Whether a key may begin here. -/
  keyAllowed : Bool

namespace Layout

/-- A text of which nothing has been read. -/
def ofCells (source : List Cell) : Layout :=
  ⟨source, [], 0, -1, [], none, [], true⟩

/-- Whether the place is within brackets. -/
def inFlow (s : Layout) : Bool := !s.outerStarts.isEmpty

/-- Adds a token. -/
def push (s : Layout) (t : Token) : Layout :=
  { s with tokens := t :: s.tokens, size := s.size + 1 }

/-- Adds a token before the tokens from a position on. -/
def insert (s : Layout) (position : Nat) (t : Token) : Layout :=
  let later := s.size - position
  { s with tokens := s.tokens.take later ++ t :: s.tokens.drop later, size := s.size + 1 }

/-- How many blocks lie further in than a column, and the blocks that remain. -/
def closing (column : Int) (indent : Int) : List Int → Nat × Int × List Int
  | [] => (0, indent, [])
  | outer :: more =>
    if column < indent then
      let (n, indent, rest) := closing column outer more
      (n + 1, indent, rest)
    else (0, indent, outer :: more)

/-- Closes the blocks that lie further in than a column. -/
def closeTo (s : Layout) (column : Int) : Layout :=
  if s.inFlow then s
  else
    let (n, indent, outerIndents) := closing column s.indent s.outerIndents
    { s with
      tokens := List.replicate n .closeBlock ++ s.tokens
      size := s.size + n
      indent
      outerIndents }

/-- Opens a block at a column, if it lies further in, by a token at a position. -/
def openAt (s : Layout) (column position : Nat) (t : Token) : Layout :=
  if !s.inFlow && s.indent < column then
    { s.insert position t with indent := column, outerIndents := s.indent :: s.outerIndents }
  else s

/-- Gives up the place where a key may have begun. Fails if nothing else may stand there. -/
def dropStart (s : Layout) : Option Layout :=
  if s.start.any (·.required) then none else some { s with start := none }

/-- Keeps a place in mind where a key may begin. -/
def noteStart (s : Layout) (c : Cell) : Option Layout := do
  if s.keyAllowed then
    let s ← s.dropStart
    return { s with
      start := some ⟨c.line, c.column, c.offset, s.size, !s.inFlow && s.indent = c.column⟩ }
  else return s

/-- The greatest number of bytes of a key without an indicator. -/
def keyLimit : Nat := 1024

/-- Whether a key that begins at a place cannot reach this far. -/
def isStale (c : Cell) (k : KeyStart) : Bool :=
  k.line < c.line || k.offset + keyLimit < c.offset

/-- Gives up the places that are too far back. Fails if nothing but a key may stand at one of
them. -/
def dropStale (s : Layout) (c : Cell) : Option Layout := do
  guard !((s.start :: s.outerStarts).any fun k => k.any fun k => isStale c k && k.required)
  let keep (k : Option KeyStart) := k.filter (!isStale c ·)
  return { s with start := keep s.start, outerStarts := s.outerStarts.map keep }

/-- The mark that may stand at the start of a line and says nothing. -/
def byteOrderMark : Char := '\ufeff'

/-- Drops blanks, comments and line ends before a token. A tab may not stand where a key may begin.
Gives whether a key may begin after them. -/
def dropSpace (flow : Bool) : (keyAllowed comment : Bool) → List Cell → Bool × List Cell
  | keyAllowed, _, [] => (keyAllowed, [])
  | keyAllowed, comment, c :: cs =>
    if isBreak c.char then dropSpace flow (keyAllowed || !flow) false cs
    else if comment || c.char = ' ' || (c.char = '\t' && (flow || !keyAllowed))
        || (c.char = byteOrderMark && c.column = 0) then
      dropSpace flow keyAllowed comment cs
    else if c.char = '#' then dropSpace flow keyAllowed true cs
    else (keyAllowed, c :: cs)

/-- A directive or a mark between documents, which closes everything. -/
def takeDocumentToken (s : Layout) (t : Token) (rest : List Cell) : Option Layout := do
  let s ← (s.closeTo (-1)).dropStart
  return { s.push t with source := rest, keyAllowed := false }

/-- An opening bracket. -/
def takeOpen (s : Layout) (c : Cell) (rest : List Cell) (t : Token) : Option Layout := do
  let s ← s.noteStart c
  return { s.push t with
    source := rest
    start := none
    outerStarts := s.start :: s.outerStarts
    keyAllowed := true }

/-- A closing bracket. -/
def takeClose (s : Layout) (rest : List Cell) (t : Token) : Option Layout := do
  let s ← s.dropStart
  let s := match s.outerStarts with
    | [] => s
    | k :: ks => { s with start := k, outerStarts := ks }
  return { s.push t with source := rest, keyAllowed := false }

/-- A comma. -/
def takeComma (s : Layout) (rest : List Cell) : Option Layout := do
  let s ← s.dropStart
  return { s.push .comma with source := rest, keyAllowed := true }

/-- The indicator of an item in a block. -/
def takeEntry (s : Layout) (c : Cell) (rest : List Cell) : Option Layout := do
  guard (s.inFlow || s.keyAllowed)
  let s ← (s.openAt c.column s.size .openBlockList).dropStart
  return { s.push .entry with source := rest, keyAllowed := true }

/-- The indicator of a key. -/
def takeKey (s : Layout) (c : Cell) (rest : List Cell) : Option Layout := do
  guard (s.inFlow || s.keyAllowed)
  let s ← (s.openAt c.column s.size .openBlockTable).dropStart
  return { s.push .key with source := rest, keyAllowed := !s.inFlow }

/-- The indicator of a value. If a key may have begun before it, it did. -/
def takeValue (s : Layout) (c : Cell) (rest : List Cell) : Option Layout :=
  match s.start with
  | some k =>
    let s := (s.insert k.position .key).openAt k.column k.position .openBlockTable
    some { s.push .value with source := rest, start := none, keyAllowed := false }
  | none => do
    guard (s.inFlow || s.keyAllowed)
    let s := s.openAt c.column s.size .openBlockTable
    return { s.push .value with source := rest, keyAllowed := !s.inFlow }

/-- A token that may begin a key, and what follows it. -/
def takeNode (s : Layout) (c : Cell) (taken : Option (Token × List Cell)) : Option Layout := do
  let s ← s.noteStart c
  let (t, rest) ← taken
  return { s.push t with source := rest, keyAllowed := false }

/-- A plain scalar. A key may begin on a new line after it. -/
def takePlain (s : Layout) (c : Cell) : Option Layout := do
  let s ← s.noteStart c
  let (t, broken, rest) ← Token.takePlain s.inFlow (s.indent + 1).toNat s.source
  return { s.push t with source := rest, keyAllowed := broken }

/-- A block of lines. -/
def takeBlock (s : Layout) (literal : Bool) (rest : List Cell) : Option Layout := do
  let s ← s.dropStart
  let (t, rest) ← Token.takeBlock literal s.indent rest
  return { s.push t with source := rest, keyAllowed := true }

/-- Characters that cannot begin a plain scalar. -/
def isIndicator (c : Char) : Bool :=
  ['-', '?', ':', ',', '[', ']', '\x7b', '\x7d', '#', '&', '*', '!', '|', '>', '\'', '"', '%', '@',
    '`'].contains c

/-- Whether a plain scalar begins with a character, given the next one. -/
def beginsPlain (flow : Bool) (c : Char) (next : Option Char) : Bool :=
  !(isGap (some c) || isIndicator c) || (c = '-' && !next.any isBlank)
    || (!flow && (c = '?' || c = ':') && !isGap next)

/-- The token at a place where one begins. -/
def takeToken (s : Layout) (c : Cell) (rest : List Cell) : Option Layout :=
  let next := Cell.first? rest
  let flow := s.inFlow
  if c.column = 0 && c.char = '%' then do
    let (t, rest) ← Token.takeDirective rest
    s.takeDocumentToken t rest
  else if Cell.startsMark '-' (c :: rest) then s.takeDocumentToken .documentStart (rest.drop 2)
  else if Cell.startsMark '.' (c :: rest) then s.takeDocumentToken .documentEnd (rest.drop 2)
  else if c.char = '[' then s.takeOpen c rest .openList
  else if c.char = '\x7b' then s.takeOpen c rest .openTable
  else if c.char = ']' then s.takeClose rest .closeList
  else if c.char = '\x7d' then s.takeClose rest .closeTable
  else if c.char = ',' then s.takeComma rest
  else if c.char = '-' && isGap next then s.takeEntry c rest
  else if c.char = '?' && (flow || isGap next) then s.takeKey c rest
  else if c.char = ':' && (flow || isGap next) then s.takeValue c rest
  else if c.char = '*' then
    s.takeNode c ((Token.takeName rest).map fun (n, rest) => (.alias n, rest))
  else if c.char = '&' then
    s.takeNode c ((Token.takeName rest).map fun (n, rest) => (.anchor n, rest))
  else if c.char = '!' then s.takeNode c (Token.takeTag flow (c :: rest))
  else if c.char = '|' && !flow then s.takeBlock true rest
  else if c.char = '>' && !flow then s.takeBlock false rest
  else if c.char = '\'' then s.takeNode c (Token.takeQuoted true rest)
  else if c.char = '"' then s.takeNode c (Token.takeQuoted false rest)
  else if beginsPlain flow c.char next then s.takePlain c
  else none

/-- Reads a text to its end. Every token takes at least one character. -/
def finish : (fuel : Nat) → Layout → Option Layout
  | 0, _ => none
  | fuel + 1, s =>
    let (keyAllowed, source) := dropSpace s.inFlow s.keyAllowed false s.source
    let s := { s with keyAllowed, source }
    match source with
    | [] => (s.closeTo (-1)).dropStart
    | c :: rest => do
      let s ← s.dropStale c
      let s ← (s.closeTo c.column).takeToken c rest
      finish fuel s

end Layout

/-- The tokens of a text, if it consists of characters that a text may hold and has tokens at all
places. -/
def Token.ofText? (text : String) : Option (List Token) := do
  guard (text.toList.all isAllowed)
  let cells := Cell.ofText text
  let s ← Layout.finish (cells.length + 1) (.ofCells cells)
  return s.tokens.reverse

end GroupKeeper.Yaml
