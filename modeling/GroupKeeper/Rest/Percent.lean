import GroupKeeper.Text.Digits

/-! Percent encoding. A character that may not stand in a part of an address is written byte by
byte, each byte as a percent sign and two digits. -/

namespace GroupKeeper.Rest

/-- A digit in base sixteen, in capitals. -/
def capitalDigit (n : Nat) : Char :=
  if n < 10 then Char.ofNat ('0'.toNat + n) else Char.ofNat ('A'.toNat + (n - 10))

/-- A byte as a percent sign and two digits. -/
def escapeByte (b : UInt8) : List Char :=
  ['%', capitalDigit (b.toNat / 16), capitalDigit (b.toNat % 16)]

/-- The bytes of a character, each escaped. -/
def escapeChar (c : Char) : List Char :=
  (String.utf8EncodeChar c).flatMap escapeByte

/-- Escapes the characters that are not kept. -/
def escapeUnless (keeps : Char → Bool) (cs : List Char) : List Char :=
  cs.flatMap fun c => if keeps c then [c] else escapeChar c

/-- The bytes that a text stands for. A percent sign without two digits after it stands for
itself. -/
def unescape : List Char → List UInt8
  | '%' :: a :: b :: cs => match Text.digits? 16 [a, b] with
    | some n => n.toUInt8 :: unescape cs
    | none => String.utf8EncodeChar '%' ++ unescape (a :: b :: cs)
  | c :: cs => String.utf8EncodeChar c ++ unescape cs
  | [] => []

/-- A set of characters that stand for themselves: those with a code of 33 to 126, but for some. -/
def plainExcept (reserved : List Char) (c : Char) : Bool :=
  0x20 < c.toNat && c.toNat < 0x7F && !reserved.contains c

/-- The characters that stand for themselves in a fragment. -/
def keptInFragment : Char → Bool :=
  plainExcept ['"', '<', '>', '`']

/-- The characters that stand for themselves in a path that is read. -/
def keptInPath : Char → Bool :=
  plainExcept ['"', '<', '>', '`', '#', '?', '\x7b', '\x7d']

/-- The characters that stand for themselves in a segment that is added to a path. A web address
takes backslashes for slashes, so they are escaped there too. -/
def keptInSegment (web : Bool) : Char → Bool :=
  plainExcept
    (['"', '<', '>', '`', '#', '?', '\x7b', '\x7d', '/', '%'] ++ if web then ['\\'] else [])

/-- The characters that stand for themselves in a query that is read. -/
def keptInQuery (web : Bool) : Char → Bool :=
  plainExcept (['"', '#', '<', '>'] ++ if web then ['\''] else [])

/-- The characters that stand for themselves in a user's name or password. -/
def keptInUser : Char → Bool :=
  plainExcept ['"', '<', '>', '`', '#', '?', '\x7b', '\x7d', '/', ':', ';', '=', '@', '[', '\\',
    ']', '^', '|']

/-- The characters that stand for themselves in the name of a host or in a text without
structure. -/
def keptInHost (c : Char) : Bool := 0x20 ≤ c.toNat && c.toNat < 0x7F

/-- The characters that stand for themselves in a form. -/
def keptInForm (c : Char) : Bool :=
  ('a' ≤ c && c ≤ 'z') || ('A' ≤ c && c ≤ 'Z') || ('0' ≤ c && c ≤ '9')
    || ['*', '-', '.', '_'].contains c

/-- A text as it stands in a form: spaces become plus signs. -/
def encodeForm (s : String) : List Char :=
  s.toList.flatMap fun c =>
    if c = ' ' then ['+'] else if keptInForm c then [c] else escapeChar c

end GroupKeeper.Rest
