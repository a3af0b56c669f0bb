import GroupKeeper.Text.Quoted

/-! Hosts: where the resources of an address are kept. -/

namespace GroupKeeper.Rest

/-- A host. -/
inductive Host where
  /-- A name. The empty name stands for no host in particular. -/
  | named (name : String)
  /-- A number of four bytes. -/
  | short (number : Nat)
  /-- A number of eight pieces, each of two bytes. -/
  | long (pieces : List Nat)
  deriving Repr, DecidableEq

namespace Host

/-- The bytes of a number, the highest first, as many as asked for. -/
def bytes : (count : Nat) → Nat → List Nat
  | 0, _ => []
  | count + 1, n => n / Nat.pow 256 count % 256 :: bytes count n

/-- How many zeros a list begins with. -/
def leadingZeros (pieces : List Nat) : Nat := (pieces.takeWhile (· = 0)).length

/-- Where the longest run of zeros begins, and how long it is. Of equal runs the first one
counts. -/
def longestZeros : List Nat → Nat × Nat
  | [] => (0, 0)
  | p :: ps =>
    let here := leadingZeros (p :: ps)
    let (start, length) := longestZeros ps
    if length ≤ here then (0, here) else (start + 1, length)

/-- Pieces in base sixteen, between colons. -/
def piecesText (pieces : List Nat) : String :=
  ":".intercalate (pieces.map fun p => String.ofList (Text.hexDigits p))

/-- The text of a long number. The longest run of zeros is left out if it has two pieces or more. -/
def longText (pieces : List Nat) : String :=
  let (start, length) := longestZeros pieces
  if length < 2 then piecesText pieces
  else piecesText (pieces.take start) ++ "::" ++ piecesText (pieces.drop (start + length))

/-- A host as it stands in an address. -/
def text : Host → String
  | named name => name
  | short n => ".".intercalate ((bytes 4 n).map toString)
  | long pieces => "[" ++ longText pieces ++ "]"

/-- Whether a host is named at all. -/
def isEmpty (h : Host) : Bool := h = named ""

end Host

end GroupKeeper.Rest
