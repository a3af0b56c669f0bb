/-! Paths of files, as texts. A path is kept as it was written; only the directory that a file is in
is found by taking its last name away. -/

namespace GroupKeeper.Path

/-- The parts of a text between slashes. There is always one. -/
def splitChars : List Char → List (List Char)
  | [] => [[]]
  | c :: cs =>
    if c = '/' then [] :: splitChars cs
    else match splitChars cs with
      | [] => [[c]]
      | part :: more => (c :: part) :: more

/-- The names of a path. An absolute path begins with an empty name. -/
def names (path : String) : List String :=
  (splitChars path.toList).map String.ofList

/-- Whether a path begins at the root. -/
def isAbsolute (path : String) : Bool := path.toList.head? = some '/'

/-- A path taken from a directory. An absolute path stays as it is. -/
def join (directory path : String) : String :=
  if isAbsolute path then path
  else if directory.isEmpty || directory.toList.getLast? = some '/' then directory ++ path
  else directory ++ "/" ++ path

/-- A list without the items at its end that satisfy a condition. -/
def dropEnd {α : Type} (p : α → Bool) (xs : List α) : List α :=
  (xs.reverse.dropWhile p).reverse

/-- Whether a name stays where it is. -/
def isHere (name : String) : Bool := name.isEmpty || name = "."

/-- Names without the last one that leads anywhere, and without what stays in place before it. -/
def withoutLast (names : List String) : List String :=
  dropEnd isHere (dropEnd isHere names).dropLast

/-- The directory of a path to a file. The first name of a relative path counts even if it stays in
place. -/
def parent (path : String) : String :=
  match names path with
  | [] => ""
  | first :: more =>
    if isAbsolute path then "/" ++ "/".intercalate (withoutLast more)
    else if (dropEnd isHere more).isEmpty then ""
    else "/".intercalate (first :: withoutLast more)

end GroupKeeper.Path
