import GroupKeeper.CommandLine.Run
import GroupKeeper.Json.Print

/-! The program. It reads the files that its arguments lead to, runs what they ask for, and writes
the log, the result and the failure. It has no connection to any network. -/

namespace GroupKeeper.CommandLine

/-- Reads a file, or a directory with all that is in it. What cannot be read is left out. -/
partial def readTree? (path : String) : IO (Option FileTree) := do
  let place := (← IO.currentDir) / path
  if ← place.isDir then
    let mut entries := []
    for entry in ← place.readDir do
      if let some t ← readTree? (Path.join path entry.fileName) then
        entries := entries ++ [(entry.fileName, t)]
    return some (.directory entries)
  else
    try return some (.file (← IO.FS.readBinFile place))
    catch _ => return none

/-- The names that lead to a path from the root, without steps upwards. -/
def plainNames (files : Files) (path : String) : List String :=
  let start := if Path.isAbsolute path then [] else files.here
  ((Path.names path).filter (!Path.isHere ·)).foldl
    (fun names name => if name = ".." then names.dropLast else names ++ [name]) start

/-- Adds the directories on the way to a path, and what it leads to. -/
def addPath (files : Files) (path : String) : IO Files := do
  let names := Path.names path
  let mut files := files
  for n in [1:names.length] do
    let way := "/".intercalate (names.take n) ++ "/"
    let here := plainNames files way
    let isNew := (files.find ("/" ++ "/".intercalate here)).toOption.isNone
    if (← ((← IO.currentDir) / way).isDir) && isNew then
      files := { files with root := files.root.put (.directory []) here }
  match ← readTree? path with
  | some t => return { files with root := files.root.put t (plainNames files path) }
  | none => return files

/-- The files that an invocation may read. -/
def gather (i : Invocation) : IO Files := do
  let here := (Path.names (← IO.currentDir).toString).filter (!Path.isHere ·)
  let files : Files := ⟨FileTree.put (.directory []) (.directory []) here, here⟩
  let files ← addPath files i.config
  match i.loadConfig files with
  | .error _ => return files
  | .ok c =>
    let files ← addPath files c.groupsPath
    match c.tokenFile with
    | some path => addPath files path
    | none => return files

/-- A line of the log in a format. -/
def rendered (format : LogFormat) (l : LogLine) : String :=
  match format with
  | .plain => l.level.name ++ " " ++ l.source.name ++ ": " ++ l.text
  | .json => Json.print l.toData

/-- Runs an invocation and writes what came of it. -/
def perform (i : Invocation) : IO UInt32 := do
  let out := i.outcome (← gather i) Rest.Network.down
  for l in out.log do
    IO.println (rendered i.logFormat l)
  match out.result with
  | .ok text => IO.print text
  | .error f => IO.eprintln ("Error: " ++ f.message)
  return out.exitCode.toUInt32

/-- The variables of the environment that options are taken from. -/
def readEnvironment : IO (List (String × String)) := do
  (Opt.all.filterMap Opt.environmentName).filterMapM fun name => do
    return (← IO.getEnv name).map fun value => (name, value)

/-- Runs the program with its arguments. -/
def start (arguments : List String) : IO UInt32 := do
  let environment ← readEnvironment
  match Invocation.ofArguments (environment.lookup ·) arguments with
  | .ok i => perform i
  | .error u =>
    if u.exitCode = 0 then IO.print u.message else IO.eprint u.message
    return u.exitCode.toUInt32

end GroupKeeper.CommandLine

/-- The program. -/
def main (arguments : List String) : IO UInt32 :=
  GroupKeeper.CommandLine.start arguments
