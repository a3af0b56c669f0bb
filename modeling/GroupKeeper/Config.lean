import GroupKeeper.Files.Tree
import GroupKeeper.Reconcile.Run
import GroupKeeper.Rest.Service
import GroupKeeper.Text.Blank
import GroupKeeper.Yaml.Document.Grammar

/-! The configuration of a run, and the rosters and tokens that it points to. Paths in a
configuration are taken from the directory that it is in. -/

namespace GroupKeeper

/-- The configuration of a run. -/
structure Config where
  /-- A file with a roster, or a directory that is searched for such files. -/
  groupsPath : String
  /-- How many groups are reconciled at a time. -/
  workerCount : Nat
  /-- The customer whose groups are listed. -/
  customer : String
  /-- A file with the token for requests. -/
  tokenFile : Option String
  deriving Repr, DecidableEq

/-- The name of the files with rosters that a directory is searched for. -/
def rosterFileName : String := "groups.yaml"

namespace Config

/-- The configuration if nothing is said. -/
def default : Config :=
  ⟨rosterFileName, Reconcile.defaultWorkers, Rest.Service.defaultCustomer, none⟩

/-- Reads a configuration. -/
def read (d : Yaml.Document) (n : Yaml.Node) : Yaml.Document.Reading Config := do
  let field ← d.reader.fields ["groups-path", "worker-count", "customer", "token-file"] n
  return {
    groupsPath := ← Reader.withDefault default.groupsPath d.text (field "groups-path")
    workerCount := ← Reader.withDefault default.workerCount d.natural (field "worker-count")
    customer := ← Reader.withDefault default.customer d.text (field "customer")
    tokenFile := ← Reader.withDefault default.tokenFile d.optionalText (field "token-file") }

/-- The configuration that a text holds. -/
def ofText? (text : String) : Option Config := do
  let d ← Yaml.Document.ofText? text
  d.read? (read d)

/-- Takes the paths of a configuration from a directory. -/
def resolve (c : Config) (directory : String) : Config :=
  { c with
    groupsPath := Path.join directory c.groupsPath
    tokenFile := c.tokenFile.map (Path.join directory) }

/-- The configuration in a file. -/
def load (fs : Files) (path : String) : Except Failure Config :=
  match fs.read path with
  | .error p => .error (Files.failure "error reading config from " path p)
  | .ok text => match ofText? text with
    | none => .error (.during ("error parsing config " ++ path) (.because (.outside .format)))
    | some c => .ok (c.resolve (Path.parent path))

/-- The token that a configuration points to, without the blanks around it. -/
def readToken (c : Config) (fs : Files) : Except Failure (Option String) :=
  match c.tokenFile with
  | none => .ok none
  | some path => match fs.read path with
    | .error p => .error (Files.failure "error reading token from " path p)
    | .ok text => .ok (some (Text.trim text))

end Config

namespace Roster

/-- The roster that a text holds. -/
def ofText? (text : String) : Option Roster := do
  let d ← Yaml.Document.ofText? text
  d.read? (read d.reader)

/-- The roster in a file. -/
def loadFile (fs : Files) (path : String) : Except Failure Roster :=
  match fs.read path with
  | .error p => .error (Files.failure "error reading groups config from " path p)
  | .ok text => match ofText? text with
    | none =>
      .error (.during ("error parsing groups config " ++ path) (.because (.outside .format)))
    | some c => .ok c

/-- The rosters in files, joined. The first failure ends it. -/
def loadFiles (fs : Files) : List String → Except Failure Roster
  | [] => .ok .empty
  | path :: paths => do
    let first ← loadFile fs path
    let rest ← loadFiles fs paths
    return ⟨first.groups ++ rest.groups⟩

/-- The files with rosters in a directory at a path, in the order of their paths. Paths are compared
name by name. -/
def filesIn (path : String) (t : FileTree) : List (List String) :=
  (t.findNamed rosterFileName path).mergeSort fun a b => !b.lex a

/-- The roster at a path: that of a file, or those of all files with rosters in a directory. -/
def load (fs : Files) (path : String) : Except Failure Roster :=
  match fs.find path with
  | .ok (.directory entries) =>
    loadFiles fs ((filesIn path (.directory entries)).map fun names => names.foldl Path.join path)
  | _ => loadFile fs path

end Roster

end GroupKeeper
