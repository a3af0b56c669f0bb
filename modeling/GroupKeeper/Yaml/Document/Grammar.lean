import GroupKeeper.Yaml.Document
import GroupKeeper.Yaml.Token.Layout

/-! The document of a text. The grammar of nodes is followed token by token. Each event of the
document is counted, and each anchor gets a number: how many names of anchors there were before. -/

namespace GroupKeeper.Yaml

namespace Grammar

/-- What has been read of a document, and the tokens to come. -/
structure State where
  tokens : List Token
  events : Nat
  /-- The numbers of the anchors by name. -/
  numbers : List (String × Nat)
  anchored : List Anchored
  /-- What the handles of tags stand for. -/
  handles : List (String × String)

/-- A step of the grammar, which may fail. -/
abbrev Parse := StateT State Option

/-- The next token. -/
def peek : Parse (Option Token) := do return (← get).tokens.head?

/-- Passes over the next token. -/
def skip : Parse Unit := modify fun s => { s with tokens := s.tokens.drop 1 }

/-- Counts an event. -/
def event : Parse Unit := modify fun s => { s with events := s.events + 1 }

/-- Takes a token if it comes next. -/
def accept (t : Token) : Parse Bool := do
  if (← peek) = some t then
    skip
    return true
  else return false

/-- Nothing, where a node could stand. -/
def emptyNode : Parse Node := do
  event
  return .empty

/-- Whether one of the given tokens comes next. -/
def comes (ts : List Token) : Parse Bool := do return (← peek).any ts.contains

/-- An anchor, if it comes next. -/
def anchorName : Parse (Option String) := do
  match ← peek with
  | some (.anchor name) =>
    skip
    return some name
  | _ => return none

/-- A tag, if it comes next. -/
def tagText : Parse (Option String) := do
  match ← peek with
  | some (.tag handle suffix) =>
    skip
    if handle.isEmpty then return some suffix
    else
      let stem ← liftM ((← get).handles.lookup handle)
      return some (stem ++ suffix)
  | _ => return none

/-- The anchor and the tag of a node, in any order. -/
def properties : Parse (Option String × Option String) := do
  match ← anchorName with
  | some name => return (some name, ← tagText)
  | none =>
    let tag ← tagText
    return (← (if tag.isSome then anchorName else pure none), tag)

/-- Gives an anchor its number. -/
def numberAnchor (name : String) : Parse Nat := do
  let s ← get
  let n := s.numbers.length
  set { s with numbers := (name, n) :: s.numbers.filter (·.1 != name) }
  return n

/-- The node with an anchor of the given name. -/
def reference (name : String) : Parse Node := do
  let n ← liftM ((← get).numbers.lookup name)
  event
  return .reference n

/-- Reads a node that has a name. -/
def anchoring (name : Option String) (node : Parse Node) : Parse Node := do
  match name with
  | none => node
  | some name =>
    let anchor ← numberAnchor name
    let position := (← get).events
    let n ← node
    modify fun s => { s with anchored := ⟨anchor, position, n⟩ :: s.anchored }
    return n

/-- A list between its events. -/
def listOf (items : Parse (List Node)) : Parse Node := do
  event
  let xs ← items
  event
  return .list xs

/-- A table between its events. -/
def tableOf (entries : Parse (List (Node × Node))) : Parse Node := do
  event
  let es ← entries
  event
  return .table es

/-- A node, or nothing if one of the given tokens comes next. -/
def nodeUnless (ts : List Token) (node : Parse Node) : Parse Node := do
  if ← comes ts then emptyNode else node

mutual

/-- A node. In a block it may be a block of its own, and in a table the items of a list may stand
where the keys stand. -/
def node (block unindented : Bool) : (fuel : Nat) → Parse Node
  | 0 => failure
  | fuel + 1 => do
    match ← peek with
    | some (.alias name) =>
      skip
      reference name
    | _ =>
      let (name, tag) ← properties
      anchoring name (content block unindented (name.isSome || tag.isSome) tag fuel)

/-- A node without its anchor and its tag. If there is one of them, the node may be empty. -/
def content (block unindented named : Bool) (tag : Option String) : (fuel : Nat) → Parse Node
  | 0 => failure
  | fuel + 1 => do
    match ← peek with
    | some (.scalar form s) =>
      skip
      event
      return .scalar tag form s
    | some .entry => if unindented then listOf (unindentedItems fuel) else emptyIf named
    | some .openList =>
      skip
      listOf (flowItems true fuel)
    | some .openTable =>
      skip
      tableOf (flowEntries true fuel)
    | some .openBlockList =>
      if block then
        skip
        listOf (blockItems fuel)
      else emptyIf named
    | some .openBlockTable =>
      if block then
        skip
        tableOf (blockEntries fuel)
      else emptyIf named
    | _ => emptyIf named
where
  emptyIf (named : Bool) : Parse Node := if named then do
    event
    return .scalar tag .plain ""
  else failure

/-- The items of a list in a block. -/
def blockItems : (fuel : Nat) → Parse (List Node)
  | 0 => failure
  | fuel + 1 => do
    if ← accept .entry then
      let x ← nodeUnless [.entry, .closeBlock] (node true false fuel)
      return x :: (← blockItems fuel)
    else if ← accept .closeBlock then return []
    else failure

/-- The items of a list that stands where the keys around it stand. -/
def unindentedItems : (fuel : Nat) → Parse (List Node)
  | 0 => failure
  | fuel + 1 => do
    if ← accept .entry then
      let x ← nodeUnless [.entry, .key, .value, .closeBlock] (node true false fuel)
      return x :: (← unindentedItems fuel)
    else return []

/-- The entries of a table in a block. Each begins with its key. -/
def blockEntries : (fuel : Nat) → Parse (List (Node × Node))
  | 0 => failure
  | fuel + 1 => do
    if ← accept .key then
      let part := nodeUnless [.key, .value, .closeBlock] (node true true fuel)
      let k ← part
      let x ← if ← accept .value then part else emptyNode
      return (k, x) :: (← blockEntries fuel)
    else if ← accept .closeBlock then return []
    else failure

/-- The items of a list between brackets. A comma may stand after the last one. -/
def flowItems (first : Bool) : (fuel : Nat) → Parse (List Node)
  | 0 => failure
  | fuel + 1 => do
    if ← accept .closeList then return []
    else
      let separated ← if first then pure true else accept .comma
      guard separated
      if ← accept .closeList then return []
      else if ← accept .key then
        let x ← tableOf (flowPair fuel)
        return x :: (← flowItems false fuel)
      else
        let x ← node false false fuel
        return x :: (← flowItems false fuel)

/-- A single pair as an item of a list between brackets. If its key is empty, the next token is
passed over. -/
def flowPair : (fuel : Nat) → Parse (List (Node × Node))
  | 0 => failure
  | fuel + 1 => do
    let k ← if ← comes [.value, .comma, .closeList] then
        skip
        emptyNode
      else node false false fuel
    let x ← if ← accept .value then
        nodeUnless [.comma, .closeList] (node false false fuel)
      else emptyNode
    return [(k, x)]

/-- The entries of a table between braces. A key may stand alone. -/
def flowEntries (first : Bool) : (fuel : Nat) → Parse (List (Node × Node))
  | 0 => failure
  | fuel + 1 => do
    if ← accept .closeTable then return []
    else
      let separated ← if first then pure true else accept .comma
      guard separated
      if ← accept .closeTable then return []
      else if ← accept .key then
        let k ← nodeUnless [.value, .comma, .closeTable] (node false false fuel)
        let x ← if ← accept .value then
            nodeUnless [.comma, .closeTable] (node false false fuel)
          else emptyNode
        return (k, x) :: (← flowEntries false fuel)
      else
        let k ← node false false fuel
        let x ← emptyNode
        return (k, x) :: (← flowEntries false fuel)

end

/-- The handles that need no directive. -/
def usualHandles : List (String × String) := [("!", "!"), ("!!", "tag:yaml.org,2002:")]

/-- Directives: at most one version, which has to be known, and different handles for tags. -/
def directives (version : Bool) (handles : List (String × String)) :
    List Token → Option (List (String × String) × List Token)
  | .version major minor :: ts => do
    guard (!version ∧ major = 1 ∧ (minor = 1 ∨ minor = 2))
    directives true handles ts
  | .tagHandle handle stem :: ts => do
    guard !(handles.any (·.1 == handle))
    directives version (handles ++ [(handle, stem)]) ts
  | ts => some (handles, ts)

/-- Whether a token is a directive. -/
def isDirective : Token → Bool
  | .version .. | .tagHandle .. => true
  | _ => false

/-- The tokens of a document that is alone in its text. A document with directives has to be
marked. -/
def start (ts : List Token) : Option (List (String × String) × Bool × List Token) :=
  if ts.head?.any fun t => isDirective t || t = .documentStart then do
    let (handles, ts) ← directives false [] ts
    guard (ts.head? = some .documentStart)
    return (handles ++ usualHandles, true, ts.drop 1)
  else some (usualHandles, false, ts)

/-- Whether a marked document is empty, given its tokens. -/
def isBare (ts : List Token) : Bool :=
  ts.head?.all fun t => isDirective t || t = .documentStart || t = .documentEnd

/-- The root of a document. -/
def root (marked : Bool) (ts : List Token) : Parse Node :=
  if ts.isEmpty || (marked && isBare ts) then emptyNode else node true false (3 * ts.length + 3)

end Grammar

/-- The document that tokens stand for. There may be no other document after it. -/
def Document.ofTokens? (ts : List Token) : Option Document := do
  let (handles, marked, ts) ← Grammar.start ts
  let (root, s) ← (Grammar.root marked ts).run ⟨ts, 0, [], [], handles⟩
  guard (s.tokens.all (· = .documentEnd))
  return ⟨root, s.events, s.anchored⟩

/-- The document of a text. -/
def Document.ofText? (text : String) : Option Document := do
  Document.ofTokens? (← Token.ofText? text)

end GroupKeeper.Yaml
