import GroupKeeper.Text.PrintTables

/-! Quoted texts in messages. A text stands between double quotes; quotes, backslashes and control
characters are escaped, and so is every character that would not show as a glyph of its own. -/

namespace GroupKeeper.Text

/-- The digits of a number in base sixteen, in small letters. -/
def hexDigits (n : Nat) : List Char :=
  Nat.toDigits 16 n

/-- A character shown by its number. -/
def showCode (c : Char) : List Char :=
  ['\\', 'u', '\x7b'] ++ hexDigits c.toNat ++ ['\x7d']

/-- A character as it stands inside quotes. -/
def quoteChar (c : Char) : List Char :=
  if c = '\x00' then ['\\', '0']
  else if c = '\t' then ['\\', 't']
  else if c = '\r' then ['\\', 'r']
  else if c = '\n' then ['\\', 'n']
  else if c = '"' ∨ c = '\\' then ['\\', c]
  else if c.toNat < 0x7F ∧ 0x20 ≤ c.toNat then [c]
  else if extenderSpans.has c || unprintableSpans.has c then showCode c
  else [c]

/-- A text between quotes. -/
def quote (s : String) : String :=
  String.ofList ('"' :: s.toList.flatMap quoteChar ++ ['"'])

/-- A list of texts, each quoted, between brackets. -/
def quoteList (xs : List String) : String :=
  "[" ++ ", ".intercalate (xs.map quote) ++ "]"

/-- A table of texts, keys and values quoted, between braces. -/
def quoteTable (xs : List (String × String)) : String :=
  "\x7b" ++ ", ".intercalate (xs.map fun (k, v) => quote k ++ ": " ++ quote v) ++ "\x7d"

end GroupKeeper.Text
