import GroupKeeper.Rest.Host
import GroupKeeper.Rest.Percent

/-! Addresses of resources. The address of a resource is built from a base address by adding
segments to its path and pairs to its query; both are escaped, so that any text may stand in
them. -/

namespace GroupKeeper.Rest

/-- A host, and how it is asked for resources. -/
structure Authority where
  /-- The user that the host is asked for as. -/
  user : String
  password : String
  host : Host
  /-- The port, if it is not the usual one. -/
  port : Option Nat
  deriving Repr, DecidableEq

/-- Where the resources of an address are. -/
inductive Site where
  | host (authority : Authority)
  /-- At no host. A path that could be taken for a host is kept apart by `/.` before it. -/
  | nowhere (apart : Bool)
  deriving Repr, DecidableEq

/-- What follows the scheme and the site of an address. -/
inductive Path where
  /-- Segments, each after a slash. There may be none. -/
  | segments (list : List String)
  /-- A text without structure, to which nothing can be added. -/
  | plain (text : String)
  deriving Repr, DecidableEq

/-- An address. -/
structure Address where
  scheme : String
  site : Site
  path : Path
  query : Option String
  fragment : Option String
  deriving Repr, DecidableEq

/-- The authority that is a host with a name. -/
def Authority.named (name : String) : Authority := ⟨"", "", .named name, none⟩

/-- User and password before their sign. An empty password is left out. -/
def Authority.userText (a : Authority) : String :=
  let password := if a.password.isEmpty then "" else ":" ++ a.password
  if a.user.isEmpty && a.password.isEmpty then "" else a.user ++ password ++ "@"

/-- An authority as text. -/
def Authority.text (a : Authority) : String :=
  a.userText ++ a.host.text ++ (a.port.map fun n => ":" ++ toString n).getD ""

/-- A site as text. -/
def Site.text : Site → String
  | host authority => "//" ++ authority.text
  | nowhere true => "/."
  | nowhere false => ""

/-- A path as text. -/
def Path.text : Path → String
  | segments list => String.join (list.map ("/" ++ ·))
  | plain text => text

namespace Address

/-- Schemes of the web, whose addresses always have a path. -/
def webSchemes : List String := ["http", "https", "ws", "wss", "ftp", "file"]

/-- Whether an address belongs to the web. -/
def isWeb (a : Address) : Bool := webSchemes.contains a.scheme

/-- A part of an address after its mark, if there is such a part. -/
def marked (mark : String) : Option String → String
  | none => ""
  | some s => mark ++ s

/-- An address as text. -/
def text (a : Address) : String :=
  a.scheme ++ ":" ++ a.site.text ++ a.path.text ++ marked "?" a.query ++ marked "#" a.fragment

/-- An address without its fragment, which is not sent. -/
def withoutFragment (a : Address) : Address := { a with fragment := none }

/-- Whether a segment is the name of a drive: a letter with a colon or a bar. -/
def isDrive (segment : List Char) : Bool :=
  match segment with
  | [letter, mark] => letter.isAlpha && (mark = ':' || mark = '|')
  | _ => false

/-- The segments of a path without the last one. The name of a drive is never taken away. -/
def climb (path : List String) : List String :=
  if path.getLast?.any (isDrive ·.toList) then path else path.dropLast

/-- Characters that are passed over in a segment: tabs and line ends. -/
def isPassedOver (c : Char) : Bool := c = '\t' ∨ c = '\n' ∨ c = '\r'

/-- Drops an empty last segment, so that a base may be written with or without a slash at its
end. The root is kept. -/
def dropEmptyEnd : List String → List String
  | [] => []
  | [s] => [s]
  | [s, ""] => [s]
  | s :: t :: rest => s :: dropEmptyEnd (t :: rest)

/-- Adds a segment to a path. A segment of one dot is an empty one, and one of two dots takes the
place of the segment before it. The path of the root has no segment to keep. -/
def addSegment (keeps : Char → Bool) (path : List String) (segment : List Char) : List String :=
  let before := if path = [""] then [] else path
  match segment with
  | ['.'] => before ++ [""]
  | ['.', '.'] => climb before ++ [""]
  | cs => before ++ [String.ofList (escapeUnless keeps cs)]

/-- Adds a text as a segment. Texts of one or two dots add nothing. -/
def extendPath (keeps : Char → Bool) (path : List String) (segment : String) : List String :=
  if segment = "." ∨ segment = ".." then path
  else addSegment keeps path (segment.toList.filter (!isPassedOver ·))

/-- The address of a resource under a base. None if nothing can be added to the base. -/
def join? (base : Address) (segments : List String) : Option Address :=
  match base.path with
  | .plain _ => none
  | .segments path =>
    some { base with
      path := .segments
        (segments.foldl (extendPath (keptInSegment base.isWeb)) (dropEmptyEnd path)) }

/-- Adds a pair to the query. -/
def addPair (a : Address) (name value : String) : Address :=
  let pair := String.ofList (encodeForm name ++ '=' :: encodeForm value)
  { a with query := some (match a.query with
    | none | some "" => pair
    | some q => q ++ "&" ++ pair) }

/-- Adds pairs to the query in their order. -/
def addPairs (a : Address) (pairs : List (String × String)) : Address :=
  pairs.foldl (fun a (name, value) => a.addPair name value) a

end Address

end GroupKeeper.Rest
