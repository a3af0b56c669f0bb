import GroupKeeper.Text.Spans

/-! Blank characters, and texts without them at their ends. -/

namespace GroupKeeper.Text

/-- The characters that count as blank: tabs, line ends, and the spaces of every width. -/
def blankSpans : Spans := [
  (0x9, 0xD), (0x20, 0x20), (0x85, 0x85), (0xA0, 0xA0), (0x1680, 0x1680),
  (0x2000, 0x200A), (0x2028, 0x2029), (0x202F, 0x202F), (0x205F, 0x205F), (0x3000, 0x3000)]

/-- A character without a mark, at which a text may be trimmed. -/
def isBlank (c : Char) : Bool :=
  blankSpans.has c

/-- A list of characters without the blanks at its ends. -/
def trimChars (cs : List Char) : List Char :=
  ((cs.dropWhile isBlank).reverse.dropWhile isBlank).reverse

/-- A text without the blanks at its ends. -/
def trim (s : String) : String :=
  String.ofList (trimChars s.toList)

end GroupKeeper.Text
