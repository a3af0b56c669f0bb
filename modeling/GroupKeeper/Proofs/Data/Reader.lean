import Mathlib.Data.List.Forall2
import GroupKeeper.Roster
import GroupKeeper.Proofs.Data.Records
import GroupKeeper.Proofs.Dictionary

/-! What a reader is told. Whatever the notation, a decoder gets back what was written if its
questions are answered with what the written data holds. Data that is read as it is answers so
itself. -/

namespace GroupKeeper

namespace Reader

variable {m : Type → Type} [Monad m] {α : Type} {r : Reader m α} {a : α}

/-- Asked for texts, lists, tables and fields, `a` answers with what the data holds. Nothing is
asked about scalars that are no texts. -/
inductive Shows (r : Reader m α) : α → Data → Prop
  | null (a : α) : Shows r a .null
  | bool (a : α) (value : Bool) : Shows r a (.bool value)
  | number (a : α) (value : Number) : Shows r a (.number value)
  | text {a : α} {value : String} (answer : r.text a = pure value) : Shows r a (.text value)
  | list {a : α} {answers : List α} {items : List Data} (answer : r.items a = pure answers)
      (inner : List.Forall₂ (Shows r) answers items) : Shows r a (.list items)
  | record {a : α} {entries : List (String × α)} {fields : List (String × Data)}
      (answer : r.table a = pure entries)
      (known : ∀ names field, collectFields names entries = some field →
        r.fields names a = pure field)
      (names : entries.map (·.1) = fields.map (·.1))
      (inner : List.Forall₂ (Shows r) (entries.map (·.2)) (fields.map (·.2))) :
      Shows r a (.record fields)

theorem Shows.text_eq {value : String} (h : r.Shows a (.text value)) : r.text a = pure value := by
  cases h with
  | text answer => exact answer

/-- The fields of a record are read where no two of them have one name. -/
theorem Shows.fields_eq {fields : List (String × Data)} (h : r.Shows a (.record fields))
    (hnames : (fields.map (·.1)).Nodup) (names : List String) :
    ∃ field, r.fields names a = pure field ∧
      ∀ name, Option.Rel r.Shows (field name) (fields.lookup name) := by
  cases h with
  | record _ known hsame inner =>
    refine ⟨_, known names _ (collectFields_eq (hsame ▸ hnames) names), fun name => ?_⟩
    exact rel_lookup (forall₂_entries hsame inner) name

/-- The values of a record are read, each under its name. -/
theorem Shows.values_eq {values : List (String × Option Data)} (h : r.Shows a (.ofValues values))
    (hnames : (values.map (·.1)).Nodup) (names : List String) :
    ∃ field, r.fields names a = pure field ∧
      ∀ name, Option.Rel r.Shows (field name) (values.lookup name).join := by
  rw [Data.ofValues_eq] at h
  obtain ⟨field, hfields, hrel⟩ := h.fields_eq (Data.nodup_present hnames) names
  exact ⟨field, hfields, fun name => Data.lookup_present hnames name ▸ hrel name⟩

/-- Reading each item of a list, where none of them fails. -/
theorem mapM_eq_pure [LawfulMonad m] {β γ : Type} {read : β → m γ} {xs : List β} {ys : List γ}
    (h : List.Forall₂ (fun x y => read x = pure y) xs ys) : xs.mapM read = pure ys := by
  induction h with
  | nil => exact List.mapM_nil
  | cons hxy _ ih => rw [List.mapM_cons, hxy, ih, pure_bind, pure_bind]

/-- A list is read where each of its items is. -/
theorem Shows.mapM_items [LawfulMonad m] {β : Type} {read : α → m β} {write : β → Data}
    {values : List β} (h : r.Shows a (.list (values.map write)))
    (hread : ∀ b v, r.Shows b (write v) → read b = pure v) :
    (do (← r.items a).mapM read) = pure values := by
  cases h with
  | list answer inner =>
    rw [List.forall₂_map_right_iff] at inner
    rw [answer, pure_bind]
    exact mapM_eq_pure (inner.imp hread)

theorem Shows.readTable_eq [LawfulMonad m] {d : Dictionary String}
    (h : r.Shows a (.record (d.mapValues .text).entries)) : GroupSpec.readTable r a = pure d := by
  cases h with
  | @record _ entries _ answer _ names inner =>
    have hrel := forall₂_entries names inner
    rw [Dictionary.mapValues, List.forall₂_map_right_iff] at hrel
    rw [GroupSpec.readTable, answer, pure_bind]
    refine (congrArg (· >>= _) (mapM_eq_pure (hrel.imp fun e f hef => ?_))).trans ?_
    · simp only [hef.1, hef.2.text_eq, pure_bind]
    · rw [pure_bind, Dictionary.ofList_entries]

/-- A value that is always written is there to be read. -/
theorem exists_shows {x : Data} {answer : Option α} (h : Option.Rel r.Shows answer (some x)) :
    ∃ a, answer = some a ∧ r.Shows a x := by
  cases h with
  | some h => exact ⟨_, rfl, h⟩

/-- A value that is left out where it is blank is read back, if what stands in for it is blank. -/
theorem withDefault_eq {β : Type} {fallback value : β} {read : α → m β} {x : Data}
    {answer : Option α} (h : Option.Rel r.Shows answer (Data.unlessBlank x))
    (hread : ∀ a, r.Shows a x → read a = pure value)
    (hblank : x.isBlank = true → value = fallback) :
    withDefault fallback read answer = pure value := by
  rw [Data.unlessBlank] at h
  split at h
  · next hx =>
    cases h
    rw [hblank hx]
    rfl
  · obtain ⟨a, rfl, hshows⟩ := exists_shows h
    exact hread a hshows

theorem withDefault_always (fallback : String) {value : String} {answer : Option α}
    (h : Option.Rel r.Shows answer (some (.text value))) :
    withDefault fallback r.text answer = pure value := by
  obtain ⟨a, rfl, hshows⟩ := exists_shows h
  exact hshows.text_eq

theorem withDefault_text {value : String} {answer : Option α}
    (h : Option.Rel r.Shows answer (Data.unlessBlank (.text value))) :
    withDefault "" r.text answer = pure value :=
  withDefault_eq h (fun _ => Shows.text_eq) String.isEmpty_iff.mp

theorem withDefault_list [LawfulMonad m] {β : Type} {read : α → m β} {write : β → Data}
    {values : List β} {answer : Option α}
    (h : Option.Rel r.Shows answer (Data.unlessBlank (.list (values.map write))))
    (hread : ∀ b v, r.Shows b (write v) → read b = pure v) :
    withDefault [] (fun a => do (← r.items a).mapM read) answer = pure values :=
  withDefault_eq h (fun _ hshows => hshows.mapM_items hread) fun hblank => by
    simpa [Data.isBlank] using hblank

theorem withDefault_texts [LawfulMonad m] {values : List String} {answer : Option α}
    (h : Option.Rel r.Shows answer (Data.unlessBlank (.list (values.map .text)))) :
    withDefault [] r.texts answer = pure values :=
  withDefault_list h fun _ _ => Shows.text_eq

theorem withDefault_table [LawfulMonad m] {d : Dictionary String} {answer : Option α}
    (h : Option.Rel r.Shows answer (Data.unlessBlank (.record (d.mapValues .text).entries))) :
    withDefault .empty (GroupSpec.readTable r) answer = pure d :=
  withDefault_eq h (fun _ => Shows.readTable_eq) fun hblank => Dictionary.ext_entries (by
    simpa [Data.isBlank, Dictionary.mapValues, Dictionary.empty] using hblank)

end Reader

namespace Data

mutual

/-- Data that is read as it is shows what it holds. -/
theorem shows_self : (x : Data) → reader.Shows x x
  | .null => .null _
  | .bool b => .bool _ b
  | .number n => .number _ n
  | .text _ => .text rfl
  | .list xs => .list rfl (shows_self_items xs)
  | .record fs => .record rfl (fun _ _ h => h) rfl (shows_self_values fs)

theorem shows_self_items : (xs : List Data) → List.Forall₂ reader.Shows xs xs
  | [] => .nil
  | x :: xs => .cons (shows_self x) (shows_self_items xs)

theorem shows_self_values : (fs : List (String × Data)) →
    List.Forall₂ reader.Shows (fs.map (·.2)) (fs.map (·.2))
  | [] => .nil
  | (_, x) :: fs => .cons (shows_self x) (shows_self_values fs)

end

end Data

end GroupKeeper
