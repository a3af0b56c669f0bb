import GroupKeeper.Data.Reader
import GroupKeeper.Yaml.Token
import GroupKeeper.Yaml.Scalar

/-! Documents: what a YAML text says, before it is asked for values of given types. A scalar has no
type of its own, so that any scalar can be read as a text. Nodes with anchors can be referred to
again; how often that may happen is bounded by the size of the document. -/

namespace GroupKeeper.Yaml

/-- A part of a document. -/
inductive Node where
  | scalar (tag : Option String) (form : ScalarForm) (text : String)
  | list (items : List Node)
  | table (entries : List (Node × Node))
  /-- A node that is referred to by the number of its anchor. -/
  | reference (anchor : Nat)
  deriving Repr, Inhabited

/-- Nothing, where something could stand. -/
def Node.empty : Node := .scalar none .plain ""

/-- A node with an anchor. -/
structure Anchored where
  /-- The number of the anchor. -/
  anchor : Nat
  /-- How many events of the document come before the node. -/
  position : Nat
  node : Node
  deriving Repr

/-- A document. -/
structure Document where
  root : Node
  /-- How many scalars, references, and starts and ends of lists and tables there are. -/
  events : Nat
  anchored : List Anchored
  deriving Repr

namespace Document

/-- The node with an anchor. Of several with one number the last one counts. -/
def target? (d : Document) (anchor : Nat) : Option Node :=
  let found := d.anchored.filter (·.anchor = anchor)
  let last := found.foldl (fun n a => max n a.position) 0
  (found.find? (·.position = last)).map (·.node)

/-- Reading a document may fail, and counts the references that it follows. -/
abbrev Reading := StateT Nat Option

/-- How many references may be followed for each event of a document. -/
def referenceLimit : Nat := 100

/-- The node itself, or the one that it refers to. -/
def resolve (d : Document) : Node → Reading Node
  | .reference anchor => do
    let followed := (← get) + 1
    guard (followed ≤ d.events * referenceLimit)
    set followed
    liftM (d.target? anchor)
  | n => return n

/-- The text of a scalar. -/
def text (d : Document) (n : Node) : Reading String := do
  match ← d.resolve n with
  | .scalar _ _ s => return s
  | _ => failure

/-- Whether nothing stands where a list or a table could stand. -/
def isEmpty : Node → Bool
  | .scalar _ .plain "" => true
  | _ => false

/-- The items of a list. -/
def items (d : Document) (n : Node) : Reading (List Node) := do
  match ← d.resolve n with
  | .list xs => return xs
  | n => if isEmpty n then return [] else failure

/-- The entries of a table, whose keys have to be scalars. -/
def entries (d : Document) (n : Node) : Reading (List (String × Node)) := do
  match ← d.resolve n with
  | .table es => es.mapM fun (k, x) => do return (← d.text k, x)
  | n => if isEmpty n then return [] else failure

/-- Reads the nodes of a document. -/
def reader (d : Document) : Reader Reading Node where
  text := d.text
  items := d.items
  fields names n := do liftM (collectFields names (← d.entries n))
  table := d.entries
  choice _ := failure

/-- The tag of nothing. -/
def nullTag : String := "tag:yaml.org,2002:null"

/-- The tag of a whole number. -/
def wholeTag : String := "tag:yaml.org,2002:int"

/-- Whether a node stands for nothing. Fails if it is said to be nothing and is something. -/
def isNull : Node → Option Bool
  | .scalar tag .plain s => match tag with
    | none => some (s.isEmpty || nullWords.contains s)
    | some t =>
      if t = nullTag then if nullWords.contains s then some true else none else some false
  | _ => some false

/-- A text, or nothing. -/
def optionalText (d : Document) (n : Node) : Reading (Option String) := do
  let n ← d.resolve n
  if ← liftM (isNull n) then return none else return some (← d.text n)

/-- A whole number of 64 bits, not negative. -/
def natural (d : Document) (n : Node) : Reading Nat := do
  match ← d.resolve n with
  | .scalar tag form s =>
    guard (form = .plain ∨ (form = .literal ∧ tag = some wholeTag))
    let k ← liftM (natural? s.toList)
    guard (k < Nat.pow 2 64)
    return k
  | _ => failure

/-- Reads the root of a document. -/
def read? {α : Type} (d : Document) (read : Node → Reading α) : Option α :=
  ((read d.root).run 0).map (·.1)

end Document

end GroupKeeper.Yaml
