import GroupKeeper.Yaml.Character

/-! Characters with their places. The meaning of a YAML text depends on columns, so each character
is marked with its place before the text is read. -/

namespace GroupKeeper.Yaml

/-- A character at its place. A carriage return and the line feed after it end one line. -/
structure Cell where
  char : Char
  line : Nat
  column : Nat
  /-- How many bytes come before. -/
  offset : Nat
  deriving Repr, Inhabited

namespace Cell

/-- Marks the characters of a text, the first of which has the given place. -/
def place (line column offset : Nat) : List Char → List Cell
  | [] => []
  | c :: cs =>
    ⟨c, line, column, offset⟩ ::
      if isBreak c && !(c = '\r' && cs.head? = some '\n') then
        place (line + 1) 0 (offset + c.utf8Size) cs
      else place line (column + 1) (offset + c.utf8Size) cs

/-- The characters of a text with their places. -/
def ofText (s : String) : List Cell := place 0 0 0 s.toList

/-- The first character, if there is one. -/
def first? (cs : List Cell) : Option Char := cs.head?.map (·.char)

/-- Whether the first character is the given one. -/
def startsWith (c : Char) (cs : List Cell) : Bool := first? cs = some c

/-- Whether the first character is a space or a tab. -/
def startsBlank (cs : List Cell) : Bool := (first? cs).any isBlank

/-- Whether the first character ends a line. -/
def startsBreak (cs : List Cell) : Bool := (first? cs).any isBreak

/-- Whether the text or the line ends here. -/
def isLineEnd (cs : List Cell) : Bool := (first? cs).all isBreak

/-- The column of the first character, or that of a new line at the end of the text. -/
def startColumn (cs : List Cell) : Nat := (cs.head?.map (·.column)).getD 0

/-- The characters up to the first one that fails a test, and the rest. -/
def takeWhile (p : Char → Bool) (cs : List Cell) : List Char × List Cell :=
  ((cs.takeWhile (p ·.char)).map (·.char), cs.dropWhile (p ·.char))

/-- Drops spaces and tabs. -/
def dropBlanks (cs : List Cell) : List Cell := cs.dropWhile (isBlank ·.char)

/-- Takes the end of a line. Most line ends stand for a line feed, whatever their spelling. -/
def takeBreak : List Cell → List Char × List Cell
  | [] => ([], [])
  | c :: cs =>
    if c.char = '\r' && startsWith '\n' cs then (['\n'], cs.drop 1)
    else if c.char = '\u2028' || c.char = '\u2029' then ([c.char], cs)
    else if isBreak c.char then (['\n'], cs)
    else ([], c :: cs)

/-- Drops what may follow on the line of an indicator: blanks, a comment and the line end. None if
something else follows. -/
def dropLine? (cs : List Cell) : Option (List Cell) :=
  let cs := dropBlanks cs
  let cs := if startsWith '#' cs then cs.dropWhile (!isBreak ·.char) else cs
  if isLineEnd cs then some (takeBreak cs).2 else none

/-- Whether a line starts with three times the same character and a gap. -/
def startsMark (mark : Char) : List Cell → Bool
  | a :: b :: c :: rest =>
    a.column = 0 && a.char = mark && b.char = mark && c.char = mark && isGap (first? rest)
  | _ => false

/-- Whether a document starts or ends here. -/
def startsDocumentMark (cs : List Cell) : Bool := startsMark '-' cs || startsMark '.' cs

end Cell

end GroupKeeper.Yaml
