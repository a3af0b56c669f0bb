/-! Tables with texts as keys, kept in the order of their keys. Two tables with the same content are
equal. -/

namespace GroupKeeper

/-- A table from texts to values, in rising order of the keys. -/
structure Dictionary (β : Type) where
  entries : List (String × β)
  sorted : entries.Pairwise (fun a b => a.1 < b.1)
  deriving DecidableEq

namespace Dictionary

variable {β γ : Type}

/-- The table without entries. -/
def empty : Dictionary β := ⟨[], .nil⟩

instance : Inhabited (Dictionary β) := ⟨empty⟩

instance : EmptyCollection (Dictionary β) := ⟨empty⟩

/-- Puts a value under a key of a list that is in order. -/
def insertEntry (key : String) (value : β) : List (String × β) → List (String × β)
  | [] => [(key, value)]
  | (k, v) :: rest =>
    if key < k then (key, value) :: (k, v) :: rest
    else if key = k then (key, value) :: rest
    else (k, v) :: insertEntry key value rest

theorem mem_insertEntry {key : String} {value : β} {es : List (String × β)} {e : String × β}
    (h : e ∈ insertEntry key value es) : e = (key, value) ∨ e ∈ es := by
  induction es with
  | nil => simpa [insertEntry] using h
  | cons x rest ih =>
    obtain ⟨k, v⟩ := x
    simp only [insertEntry] at h
    split at h
    · simpa using h
    · split at h
      · rcases List.mem_cons.1 h with h | h
        · exact .inl h
        · exact .inr (List.mem_cons_of_mem _ h)
      · rcases List.mem_cons.1 h with h | h
        · exact .inr (h ▸ List.mem_cons_self)
        · exact (ih h).imp id (List.mem_cons_of_mem _)

theorem pairwise_insertEntry (key : String) (value : β) {es : List (String × β)}
    (h : es.Pairwise (fun a b => a.1 < b.1)) :
    (insertEntry key value es).Pairwise (fun a b => a.1 < b.1) := by
  induction es with
  | nil => simp [insertEntry]
  | cons x rest ih =>
    obtain ⟨k, v⟩ := x
    obtain ⟨hk, hrest⟩ := List.pairwise_cons.1 h
    simp only [insertEntry]
    split
    · next hlt =>
      refine List.pairwise_cons.2 ⟨fun e he => ?_, h⟩
      rcases List.mem_cons.1 he with rfl | he
      · exact hlt
      · exact String.lt_trans hlt (hk e he)
    · split
      · next heq =>
        subst heq
        exact List.pairwise_cons.2 ⟨hk, hrest⟩
      · next hlt hne =>
        have hgt : k < key := by grind
        refine List.pairwise_cons.2 ⟨fun e he => ?_, ih hrest⟩
        rcases mem_insertEntry he with rfl | he
        · exact hgt
        · exact hk e he

/-- Puts a value under a key, in place of what stood there. -/
def insert (d : Dictionary β) (key : String) (value : β) : Dictionary β :=
  ⟨insertEntry key value d.entries, pairwise_insertEntry key value d.sorted⟩

/-- The value under a key. -/
def get? (d : Dictionary β) (key : String) : Option β :=
  (d.entries.find? (·.1 == key)).map (·.2)

/-- Whether a key has a value. -/
def contains (d : Dictionary β) (key : String) : Bool :=
  d.entries.any (·.1 == key)

/-- Removes a key. -/
def erase (d : Dictionary β) (key : String) : Dictionary β :=
  ⟨d.entries.filter (·.1 != key), d.sorted.filter _⟩

/-- The table of a list of entries, where the last entry of a key counts. -/
def ofList (entries : List (String × β)) : Dictionary β :=
  entries.foldl (fun d (k, v) => d.insert k v) empty

/-- The keys in order. -/
def keys (d : Dictionary β) : List String :=
  d.entries.map (·.1)

/-- The values in the order of their keys. -/
def values (d : Dictionary β) : List β :=
  d.entries.map (·.2)

/-- Whether a table has no entries. -/
def isEmpty (d : Dictionary β) : Bool :=
  d.entries.isEmpty

/-- Replaces every value by its image. -/
def mapValues (f : β → γ) (d : Dictionary β) : Dictionary γ :=
  ⟨d.entries.map fun (k, v) => (k, f v), by
    rw [List.pairwise_map]
    exact d.sorted⟩

end Dictionary

end GroupKeeper
