/-! Structured data: what a text in a data notation stands for. -/

namespace GroupKeeper

/-- A number of a data text. Whole numbers of at most 64 bits are kept as they are; others are
binary floating point numbers, kept by their 64 bits. -/
inductive Number where
  | whole (value : Int)
  | real (bits : UInt64)
  deriving Repr, DecidableEq, Inhabited

/-- A piece of structured data. The fields of a record stand in the order of their keys when they
were read from a text. -/
inductive Data where
  | null
  | bool (value : Bool)
  | number (value : Number)
  | text (value : String)
  | list (items : List Data)
  | record (fields : List (String × Data))
  deriving Repr, Inhabited

namespace Data

mutual

/-- Decides whether two pieces of data are the same. -/
def decEq : (a b : Data) → Decidable (a = b)
  | null, b => match b with
    | null => isTrue rfl
    | bool _ | number _ | text _ | list _ | record _ => isFalse nofun
  | bool x, b => match b with
    | bool y => if h : x = y then isTrue (h ▸ rfl) else isFalse fun e => h (bool.inj e)
    | null | number _ | text _ | list _ | record _ => isFalse nofun
  | number x, b => match b with
    | number y => if h : x = y then isTrue (h ▸ rfl) else isFalse fun e => h (number.inj e)
    | null | bool _ | text _ | list _ | record _ => isFalse nofun
  | text x, b => match b with
    | text y => if h : x = y then isTrue (h ▸ rfl) else isFalse fun e => h (text.inj e)
    | null | bool _ | number _ | list _ | record _ => isFalse nofun
  | list xs, b => match b with
    | list ys => match decEqList xs ys with
      | isTrue h => isTrue (h ▸ rfl)
      | isFalse h => isFalse fun e => h (list.inj e)
    | null | bool _ | number _ | text _ | record _ => isFalse nofun
  | record xs, b => match b with
    | record ys => match decEqFields xs ys with
      | isTrue h => isTrue (h ▸ rfl)
      | isFalse h => isFalse fun e => h (record.inj e)
    | null | bool _ | number _ | text _ | list _ => isFalse nofun

/-- Decides whether two lists of data are the same. -/
def decEqList : (xs ys : List Data) → Decidable (xs = ys)
  | [], [] => isTrue rfl
  | [], _ :: _ => isFalse nofun
  | _ :: _, [] => isFalse nofun
  | x :: xs, y :: ys => match decEq x y, decEqList xs ys with
    | isTrue h, isTrue hs => isTrue (by rw [h, hs])
    | isFalse h, _ => isFalse fun e => h (List.cons.inj e).1
    | _, isFalse hs => isFalse fun e => hs (List.cons.inj e).2

/-- Decides whether two lists of fields are the same. -/
def decEqFields : (xs ys : List (String × Data)) → Decidable (xs = ys)
  | [], [] => isTrue rfl
  | [], _ :: _ => isFalse nofun
  | _ :: _, [] => isFalse nofun
  | (k, x) :: xs, (l, y) :: ys =>
    if hk : k = l then
      match decEq x y, decEqFields xs ys with
      | isTrue h, isTrue hs => isTrue (by rw [hk, h, hs])
      | isFalse h, _ => isFalse fun e => h (Prod.mk.inj (List.cons.inj e).1).2
      | _, isFalse hs => isFalse fun e => hs (List.cons.inj e).2
    else isFalse fun e => hk (Prod.mk.inj (List.cons.inj e).1).1

end

instance : DecidableEq Data := decEq

/-- The fields of a record that are present. -/
def ofFields (fields : List (Option (String × Data))) : Data :=
  record (fields.filterMap id)

/-- A field that is left out when its text is empty. -/
def textField? (key value : String) : Option (String × Data) :=
  if value.isEmpty then none else some (key, text value)

/-- A field that is left out when its list is empty. -/
def textsField? (key : String) (values : List String) : Option (String × Data) :=
  if values.isEmpty then none else some (key, list (values.map text))

end Data

end GroupKeeper
