import Mathlib.Data.List.Induction
import Mathlib.Data.List.Nodup
import GroupKeeper.Dictionary

/-! Looking up keys of a table after it was changed. -/

namespace GroupKeeper.Dictionary

variable {β : Type}

theorem value_eq_of_mem {es : List (String × β)} (hs : es.Pairwise fun a b => a.1 < b.1)
    {key : String} {v w : β} (hv : (key, v) ∈ es) (hw : (key, w) ∈ es) : v = w := by
  induction es with
  | nil => simp at hv
  | cons e es ih =>
      obtain ⟨hhead, htail⟩ := List.pairwise_cons.mp hs
      rcases List.mem_cons.mp hv with rfl | hvtail
      · rcases List.mem_cons.mp hw with heq | hwtail
        · exact (Prod.mk.inj heq).2.symm
        · exact (String.lt_irrefl key (hhead (key, w) hwtail)).elim
      · rcases List.mem_cons.mp hw with rfl | hwtail
        · exact (String.lt_irrefl key (hhead (key, v) hvtail)).elim
        · exact ih htail hvtail hwtail

/-- The keys rise, so the first one does not come again. -/
theorem find?_head_eq_none {e : String × β} {es : List (String × β)}
    (hs : (e :: es).Pairwise fun a b => a.1 < b.1) : es.find? (·.1 == e.1) = none := by
  rw [List.find?_eq_none]
  intro f hf hkey
  have hlt := (List.pairwise_cons.mp hs).1 f hf
  rw [eq_of_beq hkey] at hlt
  exact String.lt_irrefl _ hlt

theorem get?_eq_some_iff {d : Dictionary β} {key : String} {value : β} :
    d.get? key = some value ↔ (key, value) ∈ d.entries := by
  simp only [get?, Option.map_eq_some_iff]
  constructor
  · rintro ⟨e, hfind, rfl⟩
    obtain rfl : e.1 = key := by simpa using List.find?_some hfind
    exact List.mem_of_find?_eq_some hfind
  · intro hmem
    have hsome : (d.entries.find? (·.1 == key)).isSome := by
      rw [List.find?_isSome]
      exact ⟨_, hmem, by simp⟩
    obtain ⟨e, hfind⟩ := Option.isSome_iff_exists.mp hsome
    refine ⟨e, hfind, ?_⟩
    obtain rfl : e.1 = key := by simpa using List.find?_some hfind
    exact value_eq_of_mem d.sorted (List.mem_of_find?_eq_some hfind) hmem

theorem ext_entries {d d' : Dictionary β} (h : d.entries = d'.entries) : d = d' := by
  cases d
  cases d'
  cases h
  rfl

@[simp] theorem get?_empty (key : String) : (empty : Dictionary β).get? key = none :=
  rfl

theorem mem_insertEntry_iff {key : String} {value : β} {es : List (String × β)}
    (hs : es.Pairwise fun a b => a.1 < b.1) (k : String) (v : β) :
    (k, v) ∈ insertEntry key value es ↔ (k = key ∧ v = value) ∨ (k ≠ key ∧ (k, v) ∈ es) := by
  induction es with
  | nil =>
      simp only [insertEntry, List.mem_singleton, Prod.mk.injEq]
      grind
  | cons e es ih =>
      obtain ⟨l, w⟩ := e
      obtain ⟨hhead, htail⟩ := List.pairwise_cons.mp hs
      have hout : ∀ u, (l, u) ∈ es → False := fun u hu => String.lt_irrefl l (hhead _ hu)
      simp only [insertEntry]
      split
      · next hlt =>
        have hfresh : ∀ u, (key, u) ∈ (l, w) :: es → False := by
          intro u hu
          rcases List.mem_cons.mp hu with hu | hu
          · obtain ⟨rfl, -⟩ := Prod.mk.inj hu
            exact String.lt_irrefl _ hlt
          · exact String.lt_irrefl _ (String.lt_trans hlt (hhead _ hu))
        rw [List.mem_cons, Prod.mk.injEq]
        grind
      · split
        · next heq =>
          subst heq
          rw [List.mem_cons, List.mem_cons, Prod.mk.injEq, Prod.mk.injEq]
          grind
        · rw [List.mem_cons, List.mem_cons, ih htail, Prod.mk.injEq]
          grind

theorem get?_insert (d : Dictionary β) (key : String) (value : β) (k : String) :
    (d.insert key value).get? k = if k = key then some value else d.get? k := by
  refine Option.ext fun v => ?_
  rw [get?_eq_some_iff, insert, mem_insertEntry_iff d.sorted]
  split
  · next h => simp [h, eq_comm]
  · next h => simp [h, get?_eq_some_iff]

theorem get?_erase (d : Dictionary β) (key k : String) :
    (d.erase key).get? k = if k = key then none else d.get? k := by
  refine Option.ext fun v => ?_
  rw [get?_eq_some_iff, erase, List.mem_filter]
  split
  · next h => simp [h]
  · next h => simp [h, get?_eq_some_iff]

theorem get?_mapValues {γ : Type} (f : β → γ) (d : Dictionary β) (key : String) :
    (d.mapValues f).get? key = (d.get? key).map f := by
  rw [get?, get?, mapValues, List.find?_map, Option.map_map, Option.map_map]
  rfl

/-- Tables that give the same values are the same. -/
theorem ext_get? {d d' : Dictionary β} (h : ∀ key, d.get? key = d'.get? key) : d = d' := by
  have hmem : ∀ e, e ∈ d.entries ↔ e ∈ d'.entries := by
    rintro ⟨key, value⟩
    rw [← get?_eq_some_iff, ← get?_eq_some_iff, h key]
  have hnodup : ∀ d : Dictionary β, d.entries.Nodup := by
    intro d
    refine d.sorted.imp fun {a b} hlt heq => ?_
    rw [heq] at hlt
    exact String.lt_irrefl b.1 hlt
  have hperm : d.entries.Perm d'.entries :=
    (List.perm_ext_iff_of_nodup (hnodup d) (hnodup d')).mpr hmem
  have hentries : d.entries = d'.entries := by
    refine hperm.eq_of_pairwise (fun a b _ _ hab hba => ?_) d.sorted d'.sorted
    exact (String.lt_irrefl a.1 (String.lt_trans hab hba)).elim
  exact ext_entries hentries

theorem mem_values_iff {d : Dictionary β} {value : β} :
    value ∈ d.values ↔ ∃ key, d.get? key = some value := by
  simp only [values, List.mem_map, get?_eq_some_iff]
  constructor
  · rintro ⟨e, he, rfl⟩
    exact ⟨e.1, he⟩
  · rintro ⟨key, hmem⟩
    exact ⟨_, hmem, rfl⟩

theorem nodup_keys (d : Dictionary β) : d.keys.Nodup := by
  rw [keys, List.nodup_iff_pairwise_ne, List.pairwise_map]
  refine d.sorted.imp fun {a b} hlt heq => ?_
  rw [heq] at hlt
  exact String.lt_irrefl b.1 hlt

/-! ## Tables of lists -/

/-- Of several entries of a list with one key the last one counts. -/
theorem get?_ofList (es : List (String × β)) (key : String) :
    (ofList es).get? key = (es.reverse.find? (·.1 == key)).map (·.2) := by
  induction es using List.reverseRecOn with
  | nil => rfl
  | append_singleton es e ih =>
      have hlast : ofList (es ++ [e]) = (ofList es).insert e.1 e.2 := by
        simp [ofList]
      rw [hlast, get?_insert, ih, List.reverse_concat]
      by_cases h : e.1 = key
      · simp [h]
      · simp [h, Ne.symm h]

theorem get?_ofList_eq_some_iff {es : List (String × β)} (hkeys : (es.map (·.1)).Nodup)
    {key : String} {value : β} : (ofList es).get? key = some value ↔ (key, value) ∈ es := by
  rw [get?_ofList, Option.map_eq_some_iff]
  constructor
  · rintro ⟨e, hfind, rfl⟩
    obtain rfl : e.1 = key := by simpa using List.find?_some hfind
    exact List.mem_reverse.mp (List.mem_of_find?_eq_some hfind)
  · intro hmem
    have hsome : (es.reverse.find? (·.1 == key)).isSome :=
      List.find?_isSome.mpr ⟨_, List.mem_reverse.mpr hmem, by simp⟩
    obtain ⟨e, hfind⟩ := Option.isSome_iff_exists.mp hsome
    have hkey : e.1 = key := by simpa using List.find?_some hfind
    have he : e ∈ es := List.mem_reverse.mp (List.mem_of_find?_eq_some hfind)
    exact ⟨e, hfind, by rw [List.inj_on_of_nodup_map hkeys he hmem hkey]⟩

theorem mem_of_mem_ofList {es : List (String × β)} {e : String × β} (h : e ∈ (ofList es).entries) :
    e ∈ es := by
  have hget : (ofList es).get? e.1 = some e.2 := get?_eq_some_iff.mpr h
  rw [get?_ofList, Option.map_eq_some_iff] at hget
  obtain ⟨e', hfind, hvalue⟩ := hget
  have hkey : e'.1 = e.1 := by simpa using List.find?_some hfind
  rw [← Prod.ext hkey hvalue]
  exact List.mem_reverse.mp (List.mem_of_find?_eq_some hfind)

/-- A table is that of its entries. -/
theorem ofList_entries (d : Dictionary β) : ofList d.entries = d := by
  refine ext_get? fun key => Option.ext fun v => ?_
  rw [get?_ofList_eq_some_iff d.nodup_keys, get?_eq_some_iff]

end GroupKeeper.Dictionary
