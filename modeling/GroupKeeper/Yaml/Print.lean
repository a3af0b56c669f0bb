import GroupKeeper.Data.Basic
import GroupKeeper.Json.Print
import GroupKeeper.Yaml.Character
import GroupKeeper.Yaml.Scalar

/-! Data written as a YAML text in block style: one entry a line, nested entries further in. A text
stands without quotes where it stays the same text that way; else between single quotes or, if
characters have to be escaped, between double quotes. Texts of several lines are written line by
line. -/

namespace GroupKeeper.Yaml

/-- How a scalar is written. -/
inductive Style where
  | plain
  | singleQuoted
  | doubleQuoted
  | literal
  deriving Repr, DecidableEq

/-- Whether a character of class `p` is followed by one of class `q`. -/
def hasPair (p q : Char → Bool) : List Char → Bool
  | a :: b :: cs => (p a && q b) || hasPair p q (b :: cs)
  | _ => false

/-- Whether a text holds nothing that has to be escaped. No space may stand at the end of a line. -/
def needsNoEscape (cs : List Char) : Bool :=
  cs.all isPrintable && !hasPair (· = ' ') isBreak cs

/-- Characters with a meaning of their own at the start of a scalar. -/
def startsMarkup (c : Char) : Bool :=
  ['#', ',', '[', ']', '\x7b', '\x7d', '&', '*', '!', '|', '>', '\'', '"', '%', '@', '`'].contains c

/-- Whether a scalar starts like something else than a scalar. -/
def hasMarkupAtStart : List Char → Bool
  | [] => false
  | c :: cs =>
    startsMarkup c || ((c = '?' || c = ':' || c = '-') && isGap cs.head?)
      || ['-', '-', '-'].isPrefixOf (c :: cs) || ['.', '.', '.'].isPrefixOf (c :: cs)

/-- Whether a colon before a gap or a hash after one stands within a scalar; the first character is
what comes before. -/
def hasMarkupWithin : List Char → Bool
  | [] => false
  | before :: cs => match cs with
    | [] => false
    | c :: rest =>
      (c = ':' && isGap rest.head?) || (c = '#' && isGap (some before)) || hasMarkupWithin cs

/-- Whether a text may stand without quotes. -/
def isPlain (cs : List Char) : Bool :=
  needsNoEscape cs && !cs.any isBreak && cs.head? != some ' ' && cs.getLast? != some ' '
    && !hasMarkupAtStart cs && !hasMarkupWithin cs

/-- Whether a text may stand between single quotes. -/
def isSingleQuotable (cs : List Char) : Bool :=
  needsNoEscape cs && !hasPair isBreak (· = ' ') cs

/-- Whether a text may be written line by line. -/
def isLiteral (cs : List Char) : Bool :=
  needsNoEscape cs && cs.getLast? != some ' '

/-- How a text is written. -/
def styleOf (s : String) : Style :=
  let cs := s.toList
  if cs.contains '\n' then if isLiteral cs then .literal else .doubleQuoted
  else if isPlain cs && !looksTyped s then .plain
  else if isSingleQuotable cs then .singleQuoted
  else .doubleQuoted

/-- So many spaces. -/
def spaces (n : Nat) : List Char := List.replicate n ' '

/-- Whether a text ends at the start of a line. -/
def atLineStart (cs : List Char) : Bool := cs.getLast?.all isBreak

/-- What comes after `before` on a new line, so far in. -/
def onNewLine (before : List Char) (indent : Nat) (rest : List Char) : List Char :=
  before ++ (if atLineStart before then [] else ['\n']) ++ spaces indent ++ rest

/-- The lines of a literal text, each so far in; `fresh` says whether a line begins. -/
def literalLines (indent : Nat) : (fresh : Bool) → List Char → List Char
  | _, [] => []
  | fresh, c :: cs =>
    if isBreak c then c :: literalLines indent true cs
    else (if fresh then spaces indent else []) ++ c :: literalLines indent false cs

/-- The mark for what happens to the line ends at the end of a literal text: one is kept without a
mark, none is there, or more are kept. -/
def endMark (cs : List Char) : List Char :=
  match cs.reverse with
  | [] => ['-']
  | [c] => if isBreak c then ['+'] else ['-']
  | c :: d :: _ => if isBreak c then if isBreak d then ['+'] else [] else ['-']

/-- A literal text. How far in it stands is said where its first line does not show it. -/
def literalText (indent : Nat) (cs : List Char) : List Char :=
  let hint := if cs.head?.any fun c => c = ' ' || isBreak c then ['2'] else []
  '|' :: hint ++ endMark cs ++ '\n' :: literalLines indent true cs

/-- The inside of a text between single quotes. A line end is followed by the indentation of the
next line; `broken` says whether one comes before. -/
def singleQuotedText (indent : Nat) : (broken : Bool) → List Char → List Char
  | broken, [] => if broken then spaces indent else []
  | broken, c :: cs =>
    if c = ' ' then c :: singleQuotedText indent broken cs
    else if isBreak c then c :: singleQuotedText indent true cs
    else
      (if broken then spaces indent else []) ++ (if c = '\'' then ['\''] else [])
        ++ c :: singleQuotedText indent false cs

/-- A number in base sixteen with so many digits. -/
def hexText (width n : Nat) : List Char :=
  let ds := (Nat.toDigits 16 n).map Char.toUpper
  List.replicate (width - ds.length) '0' ++ ds

/-- The letter of a short escape. -/
def shortEscape? (c : Char) : Option Char :=
  [('\x00', '0'), ('\x07', 'a'), ('\x08', 'b'), ('\t', 't'), ('\n', 'n'), ('\x0b', 'v'),
    ('\x0c', 'f'), ('\r', 'r'), ('\x1b', 'e'), ('"', '"'), ('\\', '\\'), ('\u0085', 'N'),
    ('\u2028', 'L'), ('\u2029', 'P')].lookup c

/-- A character between double quotes. -/
def escapeChar (c : Char) : List Char :=
  match shortEscape? c with
  | some letter => ['\\', letter]
  | none =>
    if isPrintable c then [c]
    else if c.toNat ≤ 0xFF then ['\\', 'x'] ++ hexText 2 c.toNat
    else if c.toNat ≤ 0xFFFF then ['\\', 'u'] ++ hexText 4 c.toNat
    else ['\\', 'U'] ++ hexText 8 c.toNat

/-- A text in its style. Its further lines stand so far in. -/
def scalarText (indent : Nat) (s : String) : List Char :=
  match styleOf s with
  | .plain => s.toList
  | .singleQuoted => '\'' :: singleQuotedText indent false s.toList ++ ['\'']
  | .doubleQuoted => '"' :: s.toList.flatMap escapeChar ++ ['"']
  | .literal => literalText indent s.toList

/-- The greatest size in bytes of a key on the line of its value. -/
def keyLimit : Nat := 128

/-- Whether a key is short enough, and on one line. -/
def isSimpleKey (s : String) : Bool :=
  !s.toList.any isBreak && s.utf8ByteSize ≤ keyLimit

/-- What data is written on the line of the key. -/
def isInline : Data → Bool
  | .list (_ :: _) | .record (_ :: _) => false
  | _ => true

/-- Texts, each on a line of its own that stands so far in. The first line has already begun. -/
def joinLines (indent : Nat) : List (List Char) → List Char
  | [] => []
  | first :: rest => rest.foldl (onNewLine · indent) first

/-- A field of a record, given its value's text for any indentation. The items of a list stand no
further in than their key. -/
def fieldText (indent : Nat) (key : String) (x : Data) (value : Nat → List Char) : List Char :=
  if isSimpleKey key then
    let before := scalarText (indent + 2) key ++ [':']
    if isInline x then before ++ ' ' :: value (indent + 2)
    else match x with
      | .list _ => onNewLine before indent (value indent)
      | _ => onNewLine before (indent + 2) (value (indent + 2))
  else
    onNewLine ('?' :: ' ' :: scalarText (indent + 2) key) indent (':' :: ' ' :: value (indent + 2))

mutual

/-- Data whose first line has already begun; the other lines stand so far in. The further lines of a
scalar have to be told apart from its surroundings. -/
def blockText (indent : Nat) : Data → List Char
  | .null => ['n', 'u', 'l', 'l']
  | .bool true => ['t', 'r', 'u', 'e']
  | .bool false => ['f', 'a', 'l', 's', 'e']
  | .number n => (Json.printNumber n).toList
  | .text s => scalarText indent s
  | .list xs => if xs.isEmpty then ['[', ']'] else joinLines indent (itemTexts indent xs)
  | .record fs =>
    if fs.isEmpty then ['\x7b', '\x7d'] else joinLines indent (fieldTexts indent fs)

/-- The items of a list. -/
def itemTexts (indent : Nat) : List Data → List (List Char)
  | [] => []
  | x :: xs => ('-' :: ' ' :: blockText (indent + 2) x) :: itemTexts indent xs

/-- The fields of a record. -/
def fieldTexts (indent : Nat) : List (String × Data) → List (List Char)
  | [] => []
  | (k, x) :: fs => fieldText indent k x (fun i => blockText i x) :: fieldTexts indent fs

end

/-- Data as a text of its own. -/
def print (x : Data) : String :=
  let cs := blockText (if isInline x then 2 else 0) x
  String.ofList (if atLineStart cs then cs else cs ++ ['\n'])

end GroupKeeper.Yaml
