import GroupKeeper.Data.Basic

/-! Reading typed values out of data. A `Reader` says what a decoder may ask of a piece of data,
whatever notation it was written in, so that a decoder is written once for all notations. -/

namespace GroupKeeper

/-- The values of a record's fields, by their names. -/
abbrev Fields (α : Type) := String → Option α

/-- The questions that a decoder asks of data of type `α`. Each may fail. -/
structure Reader (m : Type → Type) (α : Type) where
  /-- The text that a scalar stands for. -/
  text : α → m String
  /-- The items of a list. -/
  items : α → m (List α)
  /-- The values under the given field names; other fields are passed over. -/
  fields : List String → α → m (Fields α)
  /-- The entries of a table with texts as keys, as they stand. -/
  table : α → m (List (String × α))
  /-- The name of a choice that carries nothing else. -/
  choice : α → m String

namespace Reader

variable {m : Type → Type} {α : Type} [Monad m]

/-- A list of texts. -/
def texts (r : Reader m α) (a : α) : m (List String) := do
  (← r.items a).mapM r.text

/-- A field with a value that stands in for it when it is missing. -/
def withDefault {β : Type} (fallback : β) (read : α → m β) : Option α → m β
  | none => pure fallback
  | some a => read a

end Reader

/-- Sorts entries under known names. Fails if a known name stands twice; entries under other names
are dropped. -/
def collectFields {α : Type} (names : List String) (entries : List (String × α)) :
    Option (Fields α) :=
  if names.all (fun n => (entries.filter (·.1 == n)).length ≤ 1) then some fun n => entries.lookup n
  else none

/-- Reads a row of values as fields in a fixed order. Fails if there are more values than fields. -/
def positionalFields {α : Type} (names : List String) (items : List α) :
    Option (Fields α) :=
  if items.length ≤ names.length then some fun n => (names.zip items).lookup n else none

namespace Data

/-- The text of a scalar. -/
def text? : Data → Option String
  | text s => some s
  | _ => none

/-- The items of a list. -/
def items? : Data → Option (List Data)
  | list xs => some xs
  | _ => none

/-- The fields of a record. -/
def entries? : Data → Option (List (String × Data))
  | record fs => some fs
  | _ => none

/-- The name of a choice: a text, or the only key of a record that holds nothing under it. -/
def choice? : Data → Option String
  | text s => some s
  | record [(name, null)] => some name
  | _ => none

/-- Reads data as it is. A record may also be given as the list of its fields. -/
def reader : Reader Option Data where
  text := text?
  items := items?
  fields names
    | record fs => collectFields names fs
    | list xs => positionalFields names xs
    | _ => none
  table := entries?
  choice := choice?

end Data

end GroupKeeper
