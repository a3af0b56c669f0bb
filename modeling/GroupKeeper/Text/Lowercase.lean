import GroupKeeper.Text.CaseTables

/-! Lower-casing of texts. Every character is replaced by its small letter, the capital sigma by
one of two letters: the final form at the end of a word and the common form elsewhere. -/

namespace GroupKeeper.Text

/-- The small form of one character out of context. Only the capital I with a dot has a small form
of two characters, since its dot is kept. -/
def lowerChar (c : Char) : List Char :=
  if c = 'İ' then ['i', '\u0307']
  else [(caseShifts.findSome? (·.image? c)).getD c]

/-- Whether the first character that is not to be skipped has a case. -/
def meetsCased (cs : List Char) : Bool :=
  match cs.find? (fun c => !caseIgnorableSpans.has c) with
  | some c => casedSpans.has c
  | none => false

/-- Whether a position, with the characters before it (nearest first) and after it, ends a word. -/
def endsWord (before after : List Char) : Bool :=
  meetsCased before && !meetsCased after

/-- Lower-cases `cs`, where `before` holds what precedes it, nearest first. -/
def lowerAfter (before : List Char) : List Char → List Char
  | [] => []
  | c :: rest =>
    (if c = 'Σ' then [if endsWord before rest then 'ς' else 'σ'] else lowerChar c)
      ++ lowerAfter (c :: before) rest

/-- Lower-cases a list of characters. -/
def lowerChars (cs : List Char) : List Char :=
  lowerAfter [] cs

/-- Lower-cases a text. -/
def lower (s : String) : String :=
  String.ofList (lowerChars s.toList)

end GroupKeeper.Text
