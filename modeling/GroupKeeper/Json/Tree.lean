import GroupKeeper.Data.Reader
import GroupKeeper.Dictionary
import GroupKeeper.Json.Numeral
import GroupKeeper.Text.Digits

/-! JSON texts as trees. A tree keeps what the text says, repeated keys included; whether a literal
has a value at all is asked only where the value is used, so that a text may hold a lone surrogate
or a huge number in a place that nobody reads. -/

namespace GroupKeeper.Json

/-- A JSON text, read. A number or a text without a value is `none`. -/
inductive Tree where
  | null
  | bool (value : Bool)
  | number (value : Option Number)
  | text (value : Option String)
  | list (items : List Tree)
  | record (members : List (Option String × Tree))
  deriving Inhabited

/-- Drops the blanks that may stand between tokens. -/
def skipBlanks (cs : List Char) : List Char :=
  cs.dropWhile fun c => c = ' ' ∨ c = '\n' ∨ c = '\t' ∨ c = '\r'

/-- Four digits in base sixteen. -/
def takeUnit : List Char → Option (Nat × List Char)
  | a :: b :: c :: d :: rest => do
    let a ← Text.digit? 16 a
    let b ← Text.digit? 16 b
    let c ← Text.digit? 16 c
    let d ← Text.digit? 16 d
    return (((a * 16 + b) * 16 + c) * 16 + d, rest)
  | _ => none

/-- A character of a text, or one half of a character beyond the first plane. -/
inductive TextUnit where
  | char (c : Char)
  | high (value : Nat)
  | low (value : Nat)

/-- The unit with a given number. -/
def TextUnit.ofNat (n : Nat) : TextUnit :=
  if 0xD800 ≤ n ∧ n < 0xDC00 then high n
  else if 0xDC00 ≤ n ∧ n < 0xE000 then low n
  else char (Char.ofNat n)

/-- Joins halves to characters. None if a half stands alone. -/
def joinUnits : List TextUnit → Option (List Char)
  | [] => some []
  | .char c :: rest => (joinUnits rest).map (c :: ·)
  | .high h :: .low l :: rest =>
    (joinUnits rest).map (Char.ofNat (0x10000 + (h - 0xD800) * 0x400 + (l - 0xDC00)) :: ·)
  | .high _ :: _ => none
  | .low _ :: _ => none

/-- The character for a short escape. -/
def shortEscape? : Char → Option Char
  | '"' => some '"'
  | '\\' => some '\\'
  | '/' => some '/'
  | 'b' => some '\x08'
  | 'f' => some '\x0c'
  | 'n' => some '\n'
  | 'r' => some '\r'
  | 't' => some '\t'
  | _ => none

/-- The units of a text up to its closing quote, and the rest. -/
def takeUnits : (fuel : Nat) → List Char → Option (List TextUnit × List Char)
  | 0, _ => none
  | fuel + 1, cs => match cs with
    | [] => none
    | '"' :: rest => some ([], rest)
    | '\\' :: 'u' :: rest => do
      let (n, rest) ← takeUnit rest
      let (us, rest) ← takeUnits fuel rest
      return (.ofNat n :: us, rest)
    | '\\' :: c :: rest => do
      let e ← shortEscape? c
      let (us, rest) ← takeUnits fuel rest
      return (.char e :: us, rest)
    | c :: rest =>
      if c.toNat < 0x20 ∨ c = '\\' then none
      else do
        let (us, rest) ← takeUnits fuel rest
        return (.char c :: us, rest)

/-- The text after an opening quote, up to its closing quote. -/
def takeText (cs : List Char) : Option (Option String × List Char) := do
  let (us, rest) ← takeUnits (cs.length + 1) cs
  return ((joinUnits us).map String.ofList, rest)

/-- The rest of a text after a given word. -/
def takeWord (word : List Char) (cs : List Char) : Option (List Char) :=
  if word.isPrefixOf cs then some (cs.drop word.length) else none

mutual

/-- The value at the start of a text. -/
def takeTree : (fuel : Nat) → List Char → Option (Tree × List Char)
  | 0, _ => none
  | fuel + 1, cs => match skipBlanks cs with
    | 'n' :: rest => (takeWord ['u', 'l', 'l'] rest).map (.null, ·)
    | 't' :: rest => (takeWord ['r', 'u', 'e'] rest).map (.bool true, ·)
    | 'f' :: rest => (takeWord ['a', 'l', 's', 'e'] rest).map (.bool false, ·)
    | '"' :: rest => (takeText rest).map fun (s, rest) => (.text s, rest)
    | '[' :: rest => match skipBlanks rest with
      | ']' :: rest => some (.list [], rest)
      | rest => (takeItems fuel rest).map fun (xs, rest) => (.list xs, rest)
    | '\x7b' :: rest => match skipBlanks rest with
      | '\x7d' :: rest => some (.record [], rest)
      | rest => (takeMembers fuel rest).map fun (ms, rest) => (.record ms, rest)
    | rest => (takeNumeral rest).map fun (x, rest) => (.number x.value?, rest)

/-- The items of a list, at least one, up to the closing bracket. -/
def takeItems : (fuel : Nat) → List Char → Option (List Tree × List Char)
  | 0, _ => none
  | fuel + 1, cs => do
    let (x, rest) ← takeTree fuel cs
    match skipBlanks rest with
    | ']' :: rest => return ([x], rest)
    | ',' :: rest =>
      let (xs, rest) ← takeItems fuel rest
      return (x :: xs, rest)
    | _ => none

/-- The members of a record, at least one, up to the closing brace. -/
def takeMembers : (fuel : Nat) → List Char → Option (List (Option String × Tree) × List Char)
  | 0, _ => none
  | fuel + 1, cs => match skipBlanks cs with
    | '"' :: rest => do
      let (key, rest) ← takeText rest
      match skipBlanks rest with
      | ':' :: rest =>
        let (x, rest) ← takeTree fuel rest
        match skipBlanks rest with
        | '\x7d' :: rest => return ([(key, x)], rest)
        | ',' :: rest =>
          let (ms, rest) ← takeMembers fuel rest
          return ((key, x) :: ms, rest)
        | _ => none
      | _ => none
    | _ => none

end

/-- Reads a text that holds one value and nothing else but blanks. -/
def Tree.parse? (s : String) : Option Tree := do
  let cs := s.toList
  let (t, rest) ← takeTree (2 * cs.length + 2) cs
  guard (skipBlanks rest).isEmpty
  return t

namespace Tree

/-- How deep lists and records are nested. -/
def depth : Tree → Nat
  | list xs => (xs.attach.map fun ⟨x, _⟩ => x.depth).foldl max 0 + 1
  | record ms => (ms.attach.map fun ⟨m, h⟩ =>
      have : sizeOf m.2 < sizeOf m := by obtain ⟨k, x⟩ := m; simp +arith
      have := List.sizeOf_lt_of_mem h
      m.2.depth).foldl max 0 + 1
  | _ => 0

mutual

/-- The data of a tree, if every literal has a value. Of a repeated key the last value counts. -/
def data? : Tree → Option Data
  | null => some .null
  | bool b => some (.bool b)
  | number n => n.map .number
  | text s => s.map .text
  | list xs => (dataList? xs).map .list
  | record ms => (dataEntries? ms).map fun es => .record (Dictionary.ofList es).entries

/-- The data of each tree of a list. -/
def dataList? : List Tree → Option (List Data)
  | [] => some []
  | x :: xs => do
    let d ← data? x
    let ds ← dataList? xs
    return d :: ds

/-- The data under each key, in the order of the text. -/
def dataEntries? : List (Option String × Tree) → Option (List (String × Data))
  | [] => some []
  | (k, x) :: ms => do
    let k ← k
    let d ← data? x
    let ds ← dataEntries? ms
    return (k, d) :: ds

end

/-- The members of a record, if every key has a value. -/
def members? (ms : List (Option String × Tree)) : Option (List (String × Tree)) :=
  ms.mapM fun (k, x) => k.map (·, x)

/-- Reads trees. A record may also be given as the list of its fields. -/
def reader : Reader Option Tree where
  text
    | text s => s
    | _ => none
  items
    | list xs => some xs
    | _ => none
  fields names
    | record ms => do collectFields names (← members? ms)
    | list xs => positionalFields names xs
    | _ => none
  table
    | record ms => members? ms
    | _ => none
  choice
    | text s => s
    | record [(name, null)] => name
    | _ => none

end Tree

/-- The greatest nesting of a text all of whose values are used. -/
def depthLimit : Nat := 127

/-- Reads a text all of whose values are used. -/
def parse? (s : String) : Option Data := do
  let t ← Tree.parse? s
  guard (t.depth ≤ depthLimit)
  t.data?

end GroupKeeper.Json
