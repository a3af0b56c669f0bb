import GroupKeeper.Log.Line
import GroupKeeper.Log.Pattern
import GroupKeeper.Text.Alphanumeric
import GroupKeeper.Text.Blank
import GroupKeeper.Text.Count

/-! Directives of a log filter: `warn`, `part=info`, or `part[span\x7bfield\x7d]=debug`. A directive
says how important the lines of a part of the program must be to be written. -/

namespace GroupKeeper

/-- A directive. -/
structure Directive where
  /-- How the name of the line's source begins. Without it the directive applies to every source. -/
  source : Option String
  /-- A field that a line must have. -/
  field : Option String
  /-- The rank of the least important lines to be written; zero lets no line through. -/
  rank : Nat
  deriving Repr, DecidableEq

namespace Directive

/-- The rank of everything. -/
def everything : Nat := Level.trace.rank

/-- The names of the ranks, `off` being the least. -/
def rankNames : List String := ["off", "error", "warn", "info", "debug", "trace"]

/-- The rank that a text names, by a word in letters of any case or by its number. -/
def rank? (s : String) : Option Nat :=
  match Text.count? s with
  | some n => if n < rankNames.length then some n else none
  | none => rankNames.findIdx? (· == s.map Char.toLower)

/-- A run of bytes: where it begins, and where what follows it begins. -/
structure Place where
  first : Nat
  next : Nat
  deriving Repr, DecidableEq

/-- How a directive is put together. -/
inductive Form where
  /-- A single word, which is a rank or a source. -/
  | word
  /-- A source, a span and a field, as far as they are there, and where the rank begins. -/
  | parts (source span field : Option Place) (rank : Option Nat)
  deriving Repr, DecidableEq

/-- The number of bytes of characters. -/
def size (cs : List Char) : Nat := (String.ofList cs).utf8ByteSize

/-- The form of a directive after its brackets, which end before a place. -/
def closedForm? (source span field : Option Place) (start : Nat) : List Char → Option Form
  | [] => some (.parts source span field none)
  | '=' :: _ => some (.parts source span field (some (start + 1)))
  | _ => none

/-- The form of a directive after its opening bracket, from a place on. A span without a name counts
only if no field follows it. -/
def spanForm? (source : Option Place) (start : Nat) (cs : List Char) : Option Form :=
  let name := cs.takeWhile fun c => c ≠ ']' && c ≠ '\x7b'
  let span : Place := ⟨start, start + size name⟩
  match cs.drop name.length with
  | ']' :: rest => closedForm? source (some span) none (span.next + 1) rest
  | '\x7b' :: rest =>
    let word := rest.takeWhile (· ≠ '\x7d')
    let field : Place := ⟨span.next + 1, span.next + 1 + size word⟩
    match rest.drop word.length with
    | '\x7d' :: ']' :: rest =>
      if word.isEmpty then none
      else closedForm? source (if name.isEmpty then none else some span) (some field)
        (field.next + 2) rest
    | _ => none
  | _ => none

/-- Whether a directive may begin with a character: a letter, a digit, or one of some marks. -/
def isStart (c : Char) : Bool := Text.isAlphanumeric c || ['-', ':', '_'].contains c

/-- The form of a directive without blanks around it. -/
def form? : List Char → Option Form
  | [] => none
  | '[' :: rest => spanForm? none 1 rest
  | c :: cs =>
    if isStart c then
      let name := (c :: cs).takeWhile fun c => c ≠ '=' && c ≠ '['
      let source : Place := ⟨0, size name⟩
      match (c :: cs).drop name.length with
      | '=' :: _ => some (.parts (some source) none none (some (source.next + 1)))
      | '[' :: rest => spanForm? (some source) (source.next + 1) rest
      | _ => some .word
    else none

/-- The bytes of a text from a place to before another one, if they are whole characters. -/
def bytes? (s : String) (first next : Nat) : Option String :=
  String.fromUTF8? (s.toUTF8.extract first next)

/-- The text at a place, where there is one. -/
def textAt? (s : String) : Option Place → Option (Option String)
  | none => some none
  | some p => (bytes? s p.first p.next).map some

/-- The rank that begins at a place and ends with the text. If nothing is said, everything is
written. -/
def rankAt? (s : String) : Option Nat → Option Nat
  | none => some everything
  | some start => do
    let text ← bytes? s start s.utf8ByteSize
    if text.isEmpty then some everything else rank? text

/-- Whether a field asks for a value: a pattern after an equals sign. Fails if no pattern stands
there. -/
def asksForValue? (field : String) : Option Bool :=
  match field.toList.splitOn '=' with
  | _ :: value :: _ => if Pattern.isPattern (String.ofList value) then some true else none
  | _ => some false

/-- The directive of a text between commas, if it can apply to a line. Fails if the text is no
directive. The blanks around it are passed over when its form is found, but its parts are then cut
out of the text with the blanks, so that a blank at the start moves all of them. A line that this
program writes is in no span, and values of fields are not compared, so that a directive that asks
for one of these never applies. -/
def ofText? (s : String) : Option (Option Directive) := do
  match ← form? (Text.trimChars s.toList) with
  | .word => match rank? s with
    | some rank => return some ⟨none, none, rank⟩
    | none => return some ⟨some s, none, everything⟩
  | .parts source span field rank =>
    let source ← textAt? s source
    let span ← textAt? s span
    let field ← textAt? s field
    let rank ← rankAt? s rank
    let compares ← (field.map asksForValue?).getD (some false)
    return if span.isNone && !compares then some ⟨source, field, rank⟩ else none

/-- Whether a directive applies to a line. The message counts as a field. -/
def applies (d : Directive) (l : LogLine) : Bool :=
  (d.source.all fun s => s.toList.isPrefixOf l.source.name.toList)
    && d.field.all fun f => f = "message" || (l.fields.map (·.1)).contains f

/-- How much of a source's name a directive gives. -/
def sourceSize (d : Directive) : Nat :=
  match d.source with
  | none => 0
  | some s => s.utf8ByteSize + 1

/-- Whether a field makes a directive at least as specific as another field: some field more than
none, and of two fields the one that comes later in the order of texts. -/
def fieldCovers : Option String → Option String → Bool
  | _, none => true
  | none, some _ => false
  | some a, some b => b ≤ a

/-- Whether a directive is at least as specific as another one. The length of the source counts
most, then the field. -/
def isAtLeastAsSpecific (a b : Directive) : Bool :=
  b.sourceSize < a.sourceSize || (a.sourceSize = b.sourceSize && fieldCovers a.field b.field)

end Directive

end GroupKeeper
