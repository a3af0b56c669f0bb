import GroupKeeper.Rest.Service
import GroupKeeper.Proofs.Lists

/-! What the body of a page says. A page has all items that stand in the body, in their order, and
the token that stands there; a body that says anything else is not read as a page. -/

namespace GroupKeeper.Rest

variable {α : Type} {name : String} {item : Json.Tree → Option α} {t : Json.Tree} {p : Page α}

/-! ## Bodies -/

/-- A body with fields: a record in which neither the items nor the token stand twice, or a row of
two values, the items and the token. -/
inductive BodyFields (name : String) : Json.Tree → List (String × Json.Tree) → Prop
  | record {fields : List (String × Json.Tree)}
      (once : ∀ key ∈ [name, "nextPageToken"], (fields.filter (·.1 == key)).length ≤ 1) :
      BodyFields name (.record (fields.map fun f => (some f.1, f.2))) fields
  | row (items token : Json.Tree) :
      BodyFields name (.list [items, token]) [(name, items), ("nextPageToken", token)]

/-- The items in their place: all items of a list, each as it is read, or none if nothing stands
there. -/
inductive Itemizes (item : Json.Tree → Option α) : Option Json.Tree → List α → Prop
  | absent : Itemizes item none []
  | list {ts : List Json.Tree} {xs : List α}
      (each : List.Forall₂ (fun t x => item t = some x) ts xs) :
      Itemizes item (some (.list ts)) xs

/-- The token in its place: a text, or none if nothing stands there or null. -/
inductive Names : Option Json.Tree → Option String → Prop
  | absent : Names none none
  | null : Names (some .null) none
  | text (token : String) : Names (some (.text (some token))) (some token)

/-- The page of a body: the items that stand under a name, and the token. -/
def IsPage (name : String) (item : Json.Tree → Option α) (t : Json.Tree) (p : Page α) : Prop :=
  ∃ fields, BodyFields name t fields ∧ Itemizes item (fields.lookup name) p.items ∧
    Names (fields.lookup "nextPageToken") p.next

/-! ## Reading bodies -/

theorem members?_eq_some_iff {ms : List (Option String × Json.Tree)}
    {fields : List (String × Json.Tree)} :
    Json.Tree.members? ms = some fields ↔ ms = fields.map fun f => (some f.1, f.2) := by
  have heach : ∀ (m : Option String × Json.Tree) (f : String × Json.Tree),
      m.1.map (·, m.2) = some f ↔ m = (some f.1, f.2) := by
    rintro ⟨key, t⟩ f
    simp [Option.map_eq_some_iff, Prod.ext_iff]
  rw [Json.Tree.members?, mapM_eq_some_iff, ← List.forall₂_eq_eq_eq, List.forall₂_map_right_iff]
  exact ⟨fun h => h.imp fun m f => (heach m f).mp, fun h => h.imp fun m f => (heach m f).mpr⟩

theorem bodyFields_iff {field : Fields Json.Tree} :
    (Json.Tree.reader.fields [name, "nextPageToken"] t = some field ∧
        ∀ xs, t = .list xs → xs.length = 2) ↔
      ∃ fields, BodyFields name t fields ∧ field = fun key => fields.lookup key := by
  constructor
  · rintro ⟨h, hrow⟩
    cases t with
    | record ms =>
        obtain ⟨fields, hfields, h⟩ := Option.bind_eq_some_iff.mp h
        rw [collectFields, Option.ite_none_right_eq_some] at h
        obtain ⟨honce, h⟩ := h
        rw [members?_eq_some_iff.mp hfields]
        exact ⟨fields, .record (by simpa using honce), (Option.some.inj h).symm⟩
    | list xs =>
        obtain ⟨items, token, rfl⟩ := List.length_eq_two.mp (hrow xs rfl)
        exact ⟨_, .row items token, (Option.some.inj h).symm⟩
    | null | bool | number | text => simp [Json.Tree.reader] at h
  · rintro ⟨fields, hbody, rfl⟩
    cases hbody with
    | record honce =>
        refine ⟨?_, by simp⟩
        refine Option.bind_eq_some_iff.mpr ⟨fields, members?_eq_some_iff.mpr rfl, ?_⟩
        rw [collectFields, if_pos (by simpa using honce)]
    | row items token =>
        refine ⟨rfl, fun xs hxs => ?_⟩
        obtain rfl := Json.Tree.list.inj hxs
        rfl

theorem itemizes_iff {a : Option Json.Tree} {xs : List α} :
    Reader.withDefault [] (fun a => do (← Json.Tree.reader.items a).mapM item) a = some xs ↔
      Itemizes item a xs := by
  constructor
  · intro h
    cases a with
    | none =>
        obtain rfl := Option.some.inj h
        exact .absent
    | some t =>
        obtain ⟨ts, hts, h⟩ := Option.bind_eq_some_iff.mp h
        cases t with
        | list us =>
            obtain rfl := Option.some.inj hts
            exact .list (mapM_eq_some_iff.mp h)
        | null | bool | number | text | record => simp [Json.Tree.reader] at hts
  · intro h
    cases h with
    | absent => rfl
    | list heach => exact mapM_eq_some_iff.mpr heach

theorem names_iff {a : Option Json.Tree} {next : Option String} :
    Service.readOptional a = some next ↔ Names a next := by
  constructor
  · intro h
    cases a with
    | none =>
        obtain rfl := Option.some.inj h
        exact .absent
    | some t =>
        cases t with
        | null =>
            obtain rfl := Option.some.inj h
            exact .null
        | text value =>
            obtain ⟨token, rfl, rfl⟩ := Option.map_eq_some_iff.mp h
            exact .text token
        | bool | number | list | record => simp [Service.readOptional, Json.Tree.reader] at h
  · intro h
    cases h <;> rfl

/-- A page is read from the fields of a body; of a row every value has to be there. -/
theorem readPage_eq_some : Service.readPage name item t = some p ↔
    (∀ xs, t = .list xs → xs.length = 2) ∧
      ((Json.Tree.reader.fields [name, "nextPageToken"] t).bind fun field =>
        (Reader.withDefault [] (fun a => do (← Json.Tree.reader.items a).mapM item)
          (field name)).bind fun items =>
            (Service.readOptional (field "nextPageToken")).bind fun next =>
              some ⟨items, next⟩) = some p := by
  cases t with
  | list xs =>
      by_cases hrow : xs.length = 2
      · simp [Service.readPage, hrow]
      · simp [Service.readPage, hrow]
  | null | bool | number | text | record => simp [Service.readPage]

/-- Just the page of a body is read from it. -/
theorem readPage_iff : Service.readPage name item t = some p ↔ IsPage name item t p := by
  obtain ⟨items, next⟩ := p
  rw [readPage_eq_some]
  constructor
  · rintro ⟨hrow, h⟩
    simp only [Option.bind_eq_some_iff, Option.some.injEq, Page.mk.injEq] at h
    obtain ⟨field, hfield, _, hitems, _, hnext, rfl, rfl⟩ := h
    obtain ⟨fields, hbody, rfl⟩ := bodyFields_iff.mp ⟨hfield, hrow⟩
    exact ⟨fields, hbody, itemizes_iff.mp hitems, names_iff.mp hnext⟩
  · rintro ⟨fields, hbody, hitems, hnext⟩
    obtain ⟨hfield, hrow⟩ := bodyFields_iff.mpr ⟨fields, hbody, rfl⟩
    rw [hfield, Option.bind_some, itemizes_iff.mpr hitems, Option.bind_some,
      names_iff.mpr hnext]
    exact ⟨hrow, rfl⟩

end GroupKeeper.Rest
