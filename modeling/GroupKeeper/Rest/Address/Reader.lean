import GroupKeeper.Rest.Address
import GroupKeeper.Rest.Host.Reader

/-! Reading an address. The parts of an address are brought to one form: the scheme in small
letters, the host as `Host` gives it, no port where it is the usual one, no dots among the segments,
and everything escaped that may not stand in its part. -/

namespace GroupKeeper.Rest.Address

/-- A text without spaces and control characters at its ends, and without tabs and line ends. -/
def cleaned (s : String) : List Char :=
  let blank (c : Char) : Bool := c.toNat ≤ 0x20
  (((s.toList.dropWhile blank).reverse.dropWhile blank).reverse).filter (!isPassedOver ·)

/-- The scheme of an address and what follows its colon. -/
def takeScheme? (cs : List Char) : Option (String × List Char) :=
  let word := cs.takeWhile (· != ':')
  match word, cs.dropWhile (· != ':') with
  | c :: more, _ :: rest =>
    if c.isAlpha && more.all fun c => c.isAlphanum || ['+', '-', '.'].contains c then
      some (String.ofList (word.map Char.toLower), rest)
    else none
  | _, _ => none

/-- Whether a character ends a segment. -/
def isSlash (web : Bool) (c : Char) : Bool := c = '/' || (web && c = '\\')

/-- Whether a character ends a path. -/
def endsPath (c : Char) : Bool := c = '?' || c = '#'

/-- Whether a character ends the site of an address. -/
def endsSite (web : Bool) (c : Char) : Bool := isSlash web c || endsPath c

/-! ### Sites -/

/-- The user, the password and what follows them. The last at sign ends them. A sign alone needs a
host after it. -/
def takeUser? (web : Bool) (cs : List Char) : Option (String × String × List Char) :=
  let site := cs.takeWhile (!endsSite web ·)
  if site.contains '@' then
    let host := site.reverse.takeWhile (· != '@')
    let user := site.take (site.length - host.length - 1)
    let rest := cs.drop (user.length + 1)
    let part (cs : List Char) := String.ofList (escapeUnless keptInUser cs)
    if user.isEmpty && rest.head?.any (endsSite web) then none
    else some (part (user.takeWhile (· != ':')), part ((user.dropWhile (· != ':')).drop 1), rest)
  else some ("", "", cs)

/-- The characters of a host. A colon ends them, unless it stands between brackets. -/
def takeHost (web : Bool) : (bracketed : Bool) → List Char → List Char × List Char
  | _, [] => ([], [])
  | bracketed, c :: cs =>
    if endsSite web c || (c = ':' && !bracketed) then ([], c :: cs)
    else
      let (host, rest) := takeHost web (c = '[' || (bracketed && c ≠ ']')) cs
      (c :: host, rest)

/-- The port that a scheme uses if none is given. -/
def usualPort (scheme : String) : Option Nat :=
  if scheme = "http" ∨ scheme = "ws" then some 80
  else if scheme = "https" ∨ scheme = "wss" then some 443
  else if scheme = "ftp" then some 21
  else none

/-- One more than the greatest port. -/
def portLimit : Nat := 65536

/-- A port after its colon, if there is one. The usual port of the scheme is left out. -/
def takePort? (scheme : String) : List Char → Option (Option Nat × List Char)
  | ':' :: cs => do
    let digits := cs.takeWhile Char.isDigit
    let rest := cs.drop digits.length
    let port := (Text.digits? 10 digits).filter (some · ≠ usualPort scheme)
    guard (rest.head?.all (endsSite true) && port.all (· < portLimit))
    return (port, rest)
  | cs => some (none, cs)

/-- User, host and port after the two slashes, and what follows them. Only outside of the web may
the host be missing, and then there is no user and no port. -/
def takeAuthority? (scheme : String) (web : Bool) (cs : List Char) :
    Option (Authority × List Char) := do
  let (user, password, cs) ← takeUser? web cs
  let (name, cs) := takeHost web false cs
  let host ← if web then Host.web? name else Host.other? name
  guard !(host.isEmpty && (cs.head? = some ':' || !user.isEmpty || !password.isEmpty))
  let (port, cs) ← takePort? scheme cs
  return (⟨user, password, host, port⟩, cs)

/-! ### Paths -/

/-- The pieces of a list between the items that satisfy a condition. There is always one. -/
def splitBy {α : Type} (p : α → Bool) : List α → List (List α)
  | [] => [[]]
  | x :: xs =>
    if p x then [] :: splitBy p xs
    else match splitBy p xs with
      | [] => [[x]]
      | piece :: more => (x :: piece) :: more

/-- How many dots a segment consists of, escaped ones among them, if it consists of one or two. -/
def dots? (cs : List Char) : Option Nat :=
  let rec count : List Char → Option Nat
    | [] => some 0
    | '.' :: rest => (count rest).map (· + 1)
    | '%' :: '2' :: 'e' :: rest => (count rest).map (· + 1)
    | '%' :: '2' :: 'E' :: rest => (count rest).map (· + 1)
    | _ => none
  (count cs).filter fun n => n = 1 ∨ n = 2

/-- A segment as it is kept. Where drives have names, the name of one at the root is written with a
colon. -/
def segmentText (drives atRoot : Bool) (cs : List Char) : String :=
  if drives && atRoot && isDrive cs then String.ofList (cs.take 1 ++ [':'])
  else String.ofList (escapeUnless keptInPath cs)

/-- The segments of a path that is read. Dots are carried out at once. -/
def readSegments (drives : Bool) (done : List String) : List (List Char) → List String
  | [] => done
  | [last] => match dots? last with
    | some 1 => done ++ [""]
    | some _ => climb done ++ [""]
    | none => done ++ [segmentText drives done.isEmpty last]
  | s :: more => match dots? s with
    | some 1 => readSegments drives done more
    | some _ => readSegments drives (climb done) more
    | none => readSegments drives (done ++ [segmentText drives done.isEmpty s]) more

/-- The segments of a path after its first slash. -/
def readPath (web : Bool) (cs : List Char) : List String :=
  readSegments false [] (splitBy (isSlash web) cs)

/-- The path after an authority. Outside of the web there need not be one. -/
def pathAfter (web : Bool) (cs : List Char) : List String :=
  match cs with
  | [] => if web then [""] else []
  | c :: rest => readPath web (if isSlash web c then rest else cs)

/-! ### Files -/

/-- Segments without empty ones at their start. There is always one. -/
def withoutEmptyStart (path : List String) : List String :=
  match path.dropWhile (·.isEmpty) with
  | [] => [""]
  | path => path

/-- The path of a file at a host. The host is not named if the path begins with a drive. -/
def filePath (host : Host) (cs : List Char) : Host × List String :=
  let path := readSegments true [] (splitBy (isSlash true) cs)
  (if path.head?.any (isDrive ·.toList) then .named "" else host, withoutEmptyStart path)

/-- The name of the host that files are on if none is given. -/
def ownHost : Host := .named "localhost"

/-- What follows a slash. -/
def afterSlash? : List Char → Option (List Char)
  | [] => none
  | c :: cs => if isSlash true c then some cs else none

/-- The host and the path of a file, after the scheme. A host stands after two slashes, if no drive
stands there. The own host is not named. -/
def readFile? (cs : List Char) : Option (Host × List String) :=
  match afterSlash? cs with
  | none => some (filePath (.named "") cs)
  | some cs => match afterSlash? cs with
    | none => some (filePath (.named "") cs)
    | some cs => do
      let name := cs.takeWhile (!isSlash true ·)
      if name.isEmpty || isDrive name then return filePath (.named "") cs
      let host ← Host.web? name
      let rest := cs.drop name.length
      return if host = ownHost then filePath (.named "") rest else filePath host (rest.drop 1)

/-! ### Addresses -/

/-- The site and the path of an address of a scheme, and what follows them. -/
def takeHierarchy? (scheme : String) (cs : List Char) : Option (Site × Path × List Char) := do
  let web := webSchemes.contains scheme
  let withAuthority (cs : List Char) : Option (Site × Path × List Char) := do
    let (authority, cs) ← takeAuthority? scheme web cs
    let path := cs.takeWhile (!endsPath ·)
    return (.host authority, .segments (pathAfter web path), cs.drop path.length)
  let path := cs.takeWhile (!endsPath ·)
  let rest := cs.drop path.length
  if scheme = "file" then
    let (host, path) ← readFile? path
    return (.host ⟨"", "", host, none⟩, .segments path, rest)
  else if web then withAuthority (cs.dropWhile (isSlash web))
  else match path with
    | '/' :: '/' :: _ => withAuthority (cs.drop 2)
    | '/' :: more =>
      let segments := readPath web more
      return (.nowhere (segments.length > 1 && segments.head? = some ""), .segments segments, rest)
    | _ => return (.nowhere false, .plain (String.ofList (escapeUnless keptInHost path)), rest)

/-- The query at the start of a text. -/
def readQuery (web : Bool) : List Char → Option String
  | '?' :: cs => some (String.ofList (escapeUnless (keptInQuery web) (cs.takeWhile (· != '#'))))
  | _ => none

/-- The fragment at the end of a text. -/
def readFragment (cs : List Char) : Option String :=
  match cs.dropWhile (· != '#') with
  | [] => none
  | _ :: cs => some (String.ofList (escapeUnless keptInFragment cs))

/-- Reads an address that stands on its own. -/
def parse? (s : String) : Option Address := do
  let (scheme, rest) ← takeScheme? (cleaned s)
  let (site, path, rest) ← takeHierarchy? scheme rest
  return {
    scheme
    site
    path
    query := readQuery (webSchemes.contains scheme) rest
    fragment := readFragment rest }

end GroupKeeper.Rest.Address
