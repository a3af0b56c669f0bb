import GroupKeeper.Text.Alphanumeric
import GroupKeeper.Text.Digits

/-! Patterns of texts, in the usual notation with stars, brackets and groups. Only their form is
looked at here: whether a text is a pattern at all. Counts between braces do not occur, since a
brace ends the field that a pattern belongs to. -/

namespace GroupKeeper.Pattern

/-- The letters for control characters. -/
def controls : List (Char × Nat) :=
  [('a', 7), ('t', 9), ('n', 10), ('v', 11), ('f', 12), ('r', 13)]

/-- The letters for the start and the end of the text. -/
def edges : List Char := ['A', 'z']

/-- How many digits follow a letter that gives a character by its number. -/
def numberLength? : Char → Option Nat
  | 'x' => some 2
  | 'u' => some 4
  | 'U' => some 8
  | _ => none

/-- Whether a character loses its meaning after a backslash. -/
def isEscapable (c : Char) : Bool :=
  c.toNat < 0x80 && !c.isAlphanum && c ≠ '<' && c ≠ '>'

/-- The character that an escape stands for, after its backslash, and what follows it. Edges of
words and classes of the character standard are refused. -/
def takeEscape? : List Char → Option (Char × List Char)
  | [] => none
  | c :: cs => match controls.lookup c, numberLength? c with
    | some n, _ => some (Char.ofNat n, cs)
    | none, some length => do
      guard (length ≤ cs.length)
      let n ← Text.digits? 16 (cs.take length)
      guard n.isValidChar
      return (Char.ofNat n, cs.drop length)
    | none, none => if isEscapable c then some (c, cs) else none

/-- One character between brackets, and what follows it. -/
def takeItem? : List Char → Option (Char × List Char)
  | [] => none
  | '\\' :: cs => takeEscape? cs
  | c :: cs => some (c, cs)

/-- Names of sets of characters between brackets. -/
def setNames : List String := [
  "alnum", "alpha", "ascii", "blank", "cntrl", "digit", "graph", "lower", "print", "punct", "space",
  "upper", "word", "xdigit"]

/-- What follows a named set after its bracket. -/
def dropNamedSet? (cs : List Char) : Option (List Char) :=
  (setNames.flatMap fun n => [":" ++ n ++ ":]", ":^" ++ n ++ ":]"]).findSome? fun n =>
    if n.toList.isPrefixOf cs then some (cs.drop n.length) else none

/-- What follows the opening of a set: a circumflex, hyphens, and a bracket that does not close. -/
def dropOpening (cs : List Char) : List Char :=
  let cs := if cs.head? = some '^' then cs.drop 1 else cs
  let rest := cs.dropWhile (· = '-')
  if rest.length = cs.length && rest.head? = some ']' then rest.drop 1 else rest

/-- What follows sets that are open, so many of them inside of each other. Every step takes a
character. -/
def dropSet? : (fuel depth : Nat) → List Char → Option (List Char)
  | 0, _, _ => none
  | _, _, [] => none
  | fuel + 1, depth, c :: cs =>
    if c = ']' then if depth ≤ 1 then some cs else dropSet? fuel (depth - 1) cs
    else if c = '[' then match dropNamedSet? cs with
      | some rest => dropSet? fuel depth rest
      | none => dropSet? fuel (depth + 1) (dropOpening cs)
    else if ['&', '-', '~'].contains c && cs.head? = some c then dropSet? fuel depth (cs.drop 1)
    else match takeItem? (c :: cs) with
      | none => none
      | some (first, rest) => match rest with
        | '-' :: next :: more =>
          if next = ']' || next = '-' then dropSet? fuel depth rest
          else match takeItem? (next :: more) with
            | some (last, rest) => if first ≤ last then dropSet? fuel depth rest else none
            | none => none
        | _ => dropSet? fuel depth rest

/-- The letters of flags. Case always counts, so that there is none for it. -/
def flags : List Char := ['m', 's', 'U', 'u', 'x', 'R']

/-- Whether flags are given once each, some perhaps after a hyphen. -/
def areFlags (cs : List Char) : Bool :=
  let letters := cs.filter (· ≠ '-')
  letters.all flags.contains && letters.eraseDups = letters && cs.count '-' ≤ 1
    && cs.getLast? ≠ some '-'

/-- Whether a group may have a name. -/
def isName (cs : List Char) : Bool :=
  (cs.head?.any fun c => c = '_' || (Text.isAlphanumeric c && !c.isDigit))
    && cs.all fun c => c = '_' || c = '.' || c = '[' || c = ']' || Text.isAlphanumeric c

/-- How a group begins: its name if it has one, whether anything belongs to it, and what follows. -/
def takeGroup? (cs : List Char) : Option (Option (List Char) × Bool × List Char) :=
  let named (cs : List Char) : Option (Option (List Char) × Bool × List Char) :=
    let name := cs.takeWhile (· ≠ '>')
    if isName name && name.length < cs.length then
      some (some name, true, cs.drop (name.length + 1))
    else none
  match cs with
  | '?' :: 'P' :: '<' :: cs => named cs
  | '?' :: '<' :: cs => named cs
  | '?' :: cs =>
    let letters := cs.takeWhile fun c => c ≠ ':' && c ≠ ')'
    if areFlags letters then match cs.drop letters.length with
      | ':' :: rest => some (none, true, rest)
      | ')' :: rest => if letters.isEmpty then none else some (none, false, rest)
      | _ => none
    else none
  | cs => some (none, true, cs)

/-- Whether the rest of a pattern is well formed, within so many open groups. The names are those of
the groups before; the flag says whether there is something to repeat. Every step takes a
character. -/
def isRest :
    (fuel depth : Nat) → (names : List (List Char)) → (repeatable : Bool) → List Char → Bool
  | _, depth, _, _, [] => depth = 0
  | 0, _, _, _, _ => false
  | fuel + 1, depth, names, repeatable, c :: cs =>
    if c = '(' then match takeGroup? cs with
      | none => false
      | some (name, holds, rest) =>
        !(name.any names.contains)
          && isRest fuel (if holds then depth + 1 else depth) (name.toList ++ names) false rest
    else if c = ')' then depth ≠ 0 && isRest fuel (depth - 1) names true cs
    else if c = '|' then isRest fuel depth names false cs
    else if c = '*' || c = '+' || c = '?' then repeatable && isRest fuel depth names true cs
    else if c = '\x7b' then false
    else if c = '[' then match dropSet? (cs.length + 1) 1 (dropOpening cs) with
      | some rest => isRest fuel depth names true rest
      | none => false
    else if c = '\\' then
      if (cs.head?.any edges.contains) then isRest fuel depth names true (cs.drop 1)
      else match takeEscape? cs with
        | some (_, rest) => isRest fuel depth names true rest
        | none => false
    else isRest fuel depth names true cs

/-- Whether a text is a number with a sign, which stands for itself. -/
def isSignedNumber : List Char → Bool
  | '+' :: cs =>
    let word := String.ofList (cs.map Char.toLower)
    let digits := cs.takeWhile Char.isDigit
    let rest := cs.drop digits.length
    let (fraction, rest) := match rest with
      | '.' :: more => (more.takeWhile Char.isDigit, more.dropWhile Char.isDigit)
      | rest => ([], rest)
    let exponent := match rest with
      | [] => true
      | e :: more =>
        let ds := match more with
          | '+' :: ds | '-' :: ds => ds
          | ds => ds
        (e = 'e' || e = 'E') && !ds.isEmpty && ds.all Char.isDigit
    ["inf", "infinity", "nan"].contains word
      || (!(digits.isEmpty && fraction.isEmpty) && exponent)
  | _ => false

/-- Whether a text is a pattern, or a number. -/
def isPattern (s : String) : Bool :=
  isSignedNumber s.toList || isRest s.toList.length 0 [] false s.toList

end GroupKeeper.Pattern
