import Mathlib.Data.List.Forall2
import Mathlib.Data.List.Nodup
import GroupKeeper.Data.Reader

/-! Records. A record is written with the fields that have a value, and the others are left out.
Where every name is given to one field, each value is found under its name again, and a name without
a value is not there. -/

namespace GroupKeeper

section Lookup

variable {β : Type} {fields : List (String × β)}

theorem lookup_eq_some_iff (hkeys : (fields.map (·.1)).Nodup) {key : String} {v : β} :
    fields.lookup key = some v ↔ (key, v) ∈ fields := by
  induction fields with
  | nil => simp
  | cons e fields ih =>
      obtain ⟨k, w⟩ := e
      obtain ⟨hfresh, hkeys⟩ := List.nodup_cons.mp hkeys
      by_cases heq : key = k
      · subst heq
        have hout : (key, v) ∉ fields := fun hmem => hfresh (List.mem_map.mpr ⟨_, hmem, rfl⟩)
        simp [hout, eq_comm]
      · simp [List.lookup_cons, beq_false_of_ne heq, heq, ih hkeys]

theorem map_find?_eq_lookup (fields : List (String × β)) (key : String) :
    (fields.find? (·.1 == key)).map (·.2) = fields.lookup key := by
  induction fields with
  | nil => rfl
  | cons e fields ih =>
      obtain ⟨k, v⟩ := e
      by_cases heq : key = k
      · simp [heq]
      · simp [List.lookup_cons, beq_false_of_ne heq, beq_false_of_ne (Ne.symm heq), ih]

/-- Where all names differ, at most one field goes by a name. -/
theorem length_filter_le_one (hkeys : (fields.map (·.1)).Nodup) (key : String) :
    (fields.filter (·.1 == key)).length ≤ 1 := by
  have hcount := List.nodup_iff_count_le_one.mp hkeys key
  rwa [List.count, List.countP_map, List.countP_eq_length_filter] at hcount

theorem collectFields_eq (hkeys : (fields.map (·.1)).Nodup) (names : List String) :
    collectFields names fields = some fun name => fields.lookup name := by
  rw [collectFields, if_pos]
  simpa using fun name _ => length_filter_le_one hkeys name

section Related

variable {α : Type} {R : α → β → Prop} {entries : List (String × α)}

theorem forall₂_entries (hnames : entries.map (·.1) = fields.map (·.1))
    (hvalues : List.Forall₂ R (entries.map (·.2)) (fields.map (·.2))) :
    List.Forall₂ (fun e f => e.1 = f.1 ∧ R e.2 f.2) entries fields := by
  rw [← List.forall₂_eq_eq_eq, List.forall₂_map_left_iff, List.forall₂_map_right_iff] at hnames
  rw [List.forall₂_map_left_iff, List.forall₂_map_right_iff] at hvalues
  exact hnames.mp (fun _ _ hname hvalue => ⟨hname, hvalue⟩) hvalues

/-- Records with the same names, and with related values, have related values under each name. -/
theorem rel_lookup (h : List.Forall₂ (fun e f => e.1 = f.1 ∧ R e.2 f.2) entries fields)
    (key : String) : Option.Rel R (entries.lookup key) (fields.lookup key) := by
  induction h with
  | nil => exact .none
  | cons hef _ ih =>
      rw [List.lookup_cons, List.lookup_cons, hef.1]
      split
      · exact .some hef.2
      · exact ih

end Related

end Lookup

namespace Data

/-- Data in which no record, however deep, gives one name to two fields. -/
inductive Distinct : Data → Prop
  | null : Distinct .null
  | bool (value : Bool) : Distinct (.bool value)
  | number (value : Number) : Distinct (.number value)
  | text (value : String) : Distinct (.text value)
  | list {items : List Data} (inner : ∀ x ∈ items, Distinct x) : Distinct (.list items)
  | record {fields : List (String × Data)} (names : (fields.map (·.1)).Nodup)
      (inner : ∀ f ∈ fields, Distinct f.2) : Distinct (.record fields)

/-- Whether data is a text, a list or a record without content. -/
def isBlank : Data → Bool
  | text s => s.isEmpty
  | list xs => xs.isEmpty
  | record fs => fs.isEmpty
  | _ => false

/-- Data that is written only if it has content. -/
def unlessBlank (x : Data) : Option Data :=
  if x.isBlank then none else some x

/-- The record of the fields that have a value. -/
def ofValues (values : List (String × Option Data)) : Data :=
  ofFields (values.map fun f => f.2.map (f.1, ·))

theorem textField?_eq (key value : String) :
    textField? key value = (unlessBlank (.text value)).map (key, ·) := by
  rw [textField?, unlessBlank, isBlank]
  split <;> rfl

theorem textsField?_eq (key : String) (values : List String) :
    textsField? key values = (unlessBlank (.list (values.map .text))).map (key, ·) := by
  rw [textsField?, unlessBlank, isBlank, List.isEmpty_map]
  split <;> rfl

section Values

variable {values : List (String × Option Data)}

/-- The fields that have a value. -/
def present (values : List (String × Option Data)) : List (String × Data) :=
  values.filterMap fun f => f.2.map (f.1, ·)

theorem ofValues_eq (values : List (String × Option Data)) :
    ofValues values = .record (present values) := by
  rw [ofValues, ofFields, List.filterMap_map]
  rfl

theorem mem_present_iff {key : String} {x : Data} :
    (key, x) ∈ present values ↔ (key, some x) ∈ values := by
  simp only [present, List.mem_filterMap, Option.map_eq_some_iff, Prod.mk.injEq]
  constructor
  · rintro ⟨⟨_, _⟩, hmem, y, rfl, rfl, rfl⟩
    exact hmem
  · exact fun hmem => ⟨_, hmem, x, rfl, rfl, rfl⟩

theorem nodup_present (hnames : (values.map (·.1)).Nodup) :
    ((present values).map (·.1)).Nodup := by
  refine hnames.sublist ?_
  induction values with
  | nil => exact .refl _
  | cons f values ih =>
      have ih := ih (List.nodup_cons.mp hnames).2
      obtain ⟨name, x⟩ := f
      cases x with
      | none => exact ih.cons name
      | some x => exact ih.cons_cons name

/-- A value is found under its name, and nothing under a name without a value. -/
theorem lookup_present (hnames : (values.map (·.1)).Nodup) (key : String) :
    (present values).lookup key = (values.lookup key).join := by
  refine Option.ext fun x => ?_
  rw [lookup_eq_some_iff (nodup_present hnames), mem_present_iff, Option.join_eq_some_iff,
    lookup_eq_some_iff hnames]

/-- What a record of values may hold in a field: data that is always written, under one of the names
that are kept, or data that is written unless it is blank. -/
inductive Fills (kept : List String) : String × Option Data → Prop
  | always {name : String} {x : Data} (mem : name ∈ kept) (distinct : x.Distinct) :
      Fills kept (name, some x)
  | unlessBlank {name : String} {x : Data} (distinct : x.Distinct) :
      Fills kept (name, unlessBlank x)

/-- Data that is no record, or a record without blank fields but under the names that are kept. -/
def Sparse (kept : List String) (x : Data) : Prop :=
  ∀ f ∈ x.entries?.getD [], f.2.isBlank = true → f.1 ∈ kept

variable {kept : List String}

theorem Fills.distinct {f : String × Option Data} (h : Fills kept f) : ∀ x ∈ f.2, x.Distinct := by
  cases h with
  | always _ hx => simpa using hx
  | @unlessBlank _ x hx =>
      rw [Data.unlessBlank]
      split
      · simp
      · simpa using hx

theorem Fills.mem_kept {f : String × Option Data} (h : Fills kept f) :
    ∀ x ∈ f.2, x.isBlank = true → f.1 ∈ kept := by
  cases h with
  | always hmem _ => exact fun _ _ _ => hmem
  | @unlessBlank _ x _ =>
      rw [Data.unlessBlank]
      split
      · simp
      · next hx => simp [hx]

theorem distinct_ofValues (hnames : (values.map (·.1)).Nodup) (h : ∀ f ∈ values, Fills kept f) :
    (ofValues values).Distinct := by
  rw [ofValues_eq]
  refine .record (nodup_present hnames) fun f hf => ?_
  exact (h _ (mem_present_iff.mp hf)).distinct f.2 rfl

theorem sparse_ofValues (h : ∀ f ∈ values, Fills kept f) : (ofValues values).Sparse kept := by
  rw [ofValues_eq]
  intro f hf
  exact (h _ (mem_present_iff.mp hf)).mem_kept f.2 rfl

end Values

theorem distinct_texts (values : List String) : (list (values.map .text)).Distinct := by
  refine .list fun x hx => ?_
  obtain ⟨s, -, rfl⟩ := List.mem_map.mp hx
  exact .text s

end Data

end GroupKeeper
