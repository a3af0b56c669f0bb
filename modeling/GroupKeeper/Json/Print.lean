import GroupKeeper.Data.Shortest
import GroupKeeper.Data.Basic

/-! Data written as JSON text on one line. -/

namespace GroupKeeper.Json

/-- A character as it stands inside a JSON text. -/
def escapeChar (c : Char) : List Char :=
  if c = '"' ∨ c = '\\' then ['\\', c]
  else if c = '\n' then ['\\', 'n']
  else if c = '\r' then ['\\', 'r']
  else if c = '\t' then ['\\', 't']
  else if c = '\x08' then ['\\', 'b']
  else if c = '\x0c' then ['\\', 'f']
  else if c.toNat < 0x20 then
    ['\\', 'u', '0', '0'] ++ Nat.toDigits 16 (c.toNat / 16) ++ Nat.toDigits 16 (c.toNat % 16)
  else [c]

/-- A text between quotes. -/
def printText (s : String) : String :=
  String.ofList ('"' :: s.toList.flatMap escapeChar ++ ['"'])

/-- A number. -/
def printNumber : Number → String
  | .whole n => toString n
  | .real bits => Shortest.render bits

mutual

/-- The text of a piece of data. -/
def print : Data → String
  | .null => "null"
  | .bool true => "true"
  | .bool false => "false"
  | .number n => printNumber n
  | .text s => printText s
  | .list xs => "[" ++ ",".intercalate (printItems xs) ++ "]"
  | .record fs => "\x7b" ++ ",".intercalate (printFields fs) ++ "\x7d"

/-- The texts of the items of a list. -/
def printItems : List Data → List String
  | [] => []
  | x :: xs => print x :: printItems xs

/-- The texts of the fields of a record. -/
def printFields : List (String × Data) → List String
  | [] => []
  | (k, x) :: fs => (printText k ++ ":" ++ print x) :: printFields fs

end

end GroupKeeper.Json
