import GroupKeeper.Rest.Domain
import GroupKeeper.Rest.Host
import GroupKeeper.Rest.Percent

/-! Reading hosts. A host of the web is a number or a domain name; a host of another scheme is any
name. -/

namespace GroupKeeper.Rest.Host

/-- The pieces of a list between the items that are equal to a given one. There is always one. -/
def splitAt {α : Type} [DecidableEq α] (mark : α) : List α → List (List α)
  | [] => [[]]
  | x :: xs =>
    if x = mark then [] :: splitAt mark xs
    else match splitAt mark xs with
      | [] => [[x]]
      | piece :: more => (x :: piece) :: more

/-! ### Numbers of four bytes -/

/-- A part of a short number: in base sixteen after `0x`, in base eight after a zero, or else in
base ten. The mark of a base alone is zero. -/
def part? : List Char → Option Nat
  | [] => none
  | ['0', 'x'] | ['0', 'X'] | ['0'] => some 0
  | '0' :: 'x' :: cs | '0' :: 'X' :: cs => Text.digits? 16 cs
  | '0' :: cs => Text.digits? 8 cs
  | cs => Text.digits? 10 cs

/-- The parts of a short number. A full stop may follow the last one. -/
def shortParts (cs : List Char) : List (List Char) :=
  let parts := splitAt '.' cs
  if parts.getLast? = some [] then parts.dropLast else parts

/-- Whether a name has to be a short number: its last part is one, or looks like one. -/
def endsInNumber (cs : List Char) : Bool :=
  match (shortParts cs).getLast? with
  | none => false
  | some last => (!last.isEmpty && last.all Char.isDigit) || (part? last).isSome

/-- The number of four parts or fewer. The last part fills the bytes that are left. -/
def short? (cs : List Char) : Option Host := do
  let parts ← (shortParts cs).mapM part?
  guard (parts.length ≤ 4)
  let last ← parts.getLast?
  let before := parts.dropLast
  let rest := Nat.pow 256 (4 - before.length)
  guard (before.all (· < 256) && last < rest)
  return .short (before.foldl (fun n p => 256 * n + p) 0 * rest + last)

/-! ### Numbers of eight pieces -/

/-- A part of the four bytes at the end of a long number: in base ten, without needless zeros. -/
def byte? (cs : List Char) : Option Nat := do
  guard (cs.length = 1 || cs.head? ≠ some '0')
  (Text.digits? 10 cs).filter (· < 256)

/-- Four bytes as two pieces. -/
def bytesAsPieces? (cs : List Char) : Option (List Nat) := do
  match ← (splitAt '.' cs).mapM byte? with
  | [a, b, c, d] => return [256 * a + b, 256 * c + d]
  | _ => none

/-- A piece of a long number. -/
def piece? (cs : List Char) : Option Nat :=
  if cs.length ≤ 4 then Text.digits? 16 cs else none

/-- The pieces of a row. The last of them may be two pieces in the form of four bytes. -/
def row? : List (List Char) → Option (List Nat)
  | [] => some []
  | [last] => if last.contains '.' then bytesAsPieces? last else (piece? last).map ([·])
  | cs :: more => do return (← piece? cs) :: (← row? more)

/-- The pieces between colons. There are none in an empty text. -/
def pieces? (cs : List Char) : Option (List Nat) :=
  if cs.isEmpty then some [] else row? (splitAt ':' cs)

/-- The texts before and after the first two colons that follow each other. -/
def splitAtGap : List Char → Option (List Char × List Char)
  | ':' :: ':' :: cs => some ([], cs)
  | [] => none
  | c :: cs => (splitAtGap cs).map fun (before, after) => (c :: before, after)

/-- A long number. Two colons stand for a run of zeros. -/
def long? (cs : List Char) : Option Host :=
  match splitAtGap cs with
  | none => (pieces? cs).bind fun pieces => if pieces.length = 8 then some (.long pieces) else none
  | some (before, after) => do
    guard (!before.contains '.')
    let before ← pieces? before
    let after ← pieces? after
    guard (before.length + after.length < 8)
    return .long (before ++ List.replicate (8 - before.length - after.length) 0 ++ after)

/-- A long number between brackets, if there is a bracket. -/
def bracketed? : List Char → Option (Option Host)
  | '[' :: cs => if cs.getLast? = some ']' then some (long? cs.dropLast) else some none
  | _ => none

/-! ### Names -/

/-- The host of a web address. Bytes may be escaped. There has to be a name. -/
def web? (cs : List Char) : Option Host :=
  match bracketed? cs with
  | some host => host
  | none => do
    let name ← String.fromUTF8? ⟨(unescape cs).toArray⟩
    let domain ← Domain.basic? name.toList
    guard (!domain.isEmpty)
    if endsInNumber domain.toList then short? domain.toList else some (.named domain)

/-- The characters that no name of a host holds. -/
def reserved : List Char :=
  ['\x00', '\t', '\n', '\r', ' ', '#', '/', ':', '<', '>', '?', '@', '[', '\\', ']', '^', '|']

/-- The host of an address of another kind. -/
def other? (cs : List Char) : Option Host :=
  match bracketed? cs with
  | some host => host
  | none =>
    if cs.any reserved.contains then none
    else some (.named (String.ofList (escapeUnless keptInHost cs)))

end GroupKeeper.Rest.Host
