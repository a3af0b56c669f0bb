import GroupKeeper.Failure
import GroupKeeper.Files.Path

/-! Files in directories, and how a path leads to them. -/

namespace GroupKeeper

/-- A file with its bytes, or a directory with its entries in the order in which they are listed. -/
inductive FileTree where
  | file (content : ByteArray)
  | directory (entries : List (String × FileTree))
  deriving Inhabited

namespace FileTree

/-- The file of a text. -/
def ofText (text : String) : FileTree := .file text.toUTF8

/-- Whether a tree is a directory. -/
def isDirectory : FileTree → Bool
  | file _ => false
  | directory _ => true

/-- The greatest number of bytes of a name. -/
def nameLimit : Nat := 255

/-- The number of bytes that no path reaches. -/
def pathLimit : Nat := 4096

/-- Whether a path is short enough to lead anywhere. -/
def isShort (path : String) : Bool := path.utf8ByteSize < pathLimit

/-- The entry of a directory with a name. -/
def entry? (name : String) : FileTree → Except FileProblem FileTree
  | file _ => .error .notADirectory
  | directory entries =>
    if nameLimit < name.utf8ByteSize then .error .nameTooLong
    else match entries.find? (·.1 == name) with
      | some (_, t) => .ok t
      | none => .error .notFound

/-- The entries of a directory. A file has none. -/
def entries : FileTree → List (String × FileTree)
  | file _ => []
  | directory entries => entries

/-- A tree in which names lead to another one. Directories that are missing on the way are made. -/
def put (t : FileTree) (inner : FileTree) : List String → FileTree
  | [] => inner
  | name :: names =>
    let old := ((t.entries.find? (·.1 == name)).map (·.2)).getD (.directory [])
    .directory (t.entries.filter (·.1 ≠ name) ++ [(name, old.put inner names)])

/-- The text of a file. -/
def text : FileTree → Except FileProblem String
  | file content => match String.fromUTF8? content with
    | some s => .ok s
    | none => .error .notText
  | directory _ => .error .isADirectory

mutual

/-- Where the files with a name are below a path, each given by the names that lead to it. A
directory with the name is looked through like any other. One whose path is too long is taken for a
file, since it cannot be looked through. -/
def findNamed (name path : String) : FileTree → List (List String)
  | file _ => []
  | directory entries => findInEntries name path entries

/-- Where the files with a name are among the entries of a path. -/
def findInEntries (name path : String) : List (String × FileTree) → List (List String)
  | [] => []
  | (n, t) :: more =>
    let inner := Path.join path n
    (if t.isDirectory && isShort inner then (findNamed name inner t).map (n :: ·)
      else if n = name then [[n]] else [])
      ++ findInEntries name path more

end

end FileTree

/-- All files, and the directory in which relative paths begin. -/
structure Files where
  root : FileTree
  /-- The names that lead to the directory. -/
  here : List String

namespace Files

/-- Takes one name of a path. `above` are the directories on the way, the nearest first. -/
def enter (above : List FileTree) (t : FileTree) (name : String) :
    Except FileProblem (List FileTree × FileTree) :=
  if ¬t.isDirectory then .error .notADirectory
  else if Path.isHere name then .ok (above, t)
  else if name = ".." then match above with
    | [] => .ok ([], t)
    | outer :: more => .ok (more, outer)
  else (t.entry? name).map fun inner => (t :: above, inner)

/-- Takes the names of a path. -/
def follow (above : List FileTree) (t : FileTree) : List String → Except FileProblem FileTree
  | [] => .ok t
  | name :: names => match enter above t name with
    | .ok (above, t) => follow above t names
    | .error p => .error p

/-- What a path leads to. -/
def find (fs : Files) (path : String) : Except FileProblem FileTree :=
  if path.isEmpty then .error .notFound
  else if path.toList.contains '\x00' then .error .noName
  else if !FileTree.isShort path then .error .nameTooLong
  else
    let start := if Path.isAbsolute path then [] else fs.here
    follow [] fs.root (start ++ Path.names path)

/-- The text of the file at a path. -/
def read (fs : Files) (path : String) : Except FileProblem String := do
  (← fs.find path).text

/-- The failure of something that was to be done with a file. -/
def failure (context path : String) (p : FileProblem) : Failure :=
  .during (context ++ path) (.because (.outside (.file p)))

end Files

end GroupKeeper
