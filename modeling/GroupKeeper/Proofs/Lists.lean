import Mathlib.Data.Multiset.Bind

/-! Lists that are compared item by item, in their order or in any. -/

namespace GroupKeeper

variable {α β : Type}

theorem exists_of_forall₂ {R : α → β → Prop} {xs : List α} {ys : List β}
    (h : List.Forall₂ R xs ys) : ∀ y ∈ ys, ∃ x ∈ xs, R x y := by
  induction h with
  | nil => simp
  | cons hxy _ ih =>
      refine List.forall_mem_cons.mpr ⟨⟨_, List.mem_cons_self, hxy⟩, fun y hy => ?_⟩
      obtain ⟨x, hx, hxy⟩ := ih y hy
      exact ⟨x, List.mem_cons_of_mem _ hx, hxy⟩

/-- A list is read if each of its items is, one after the other. -/
theorem mapM_eq_some_iff {f : α → Option β} {xs : List α} {ys : List β} :
    xs.mapM f = some ys ↔ List.Forall₂ (fun x y => f x = some y) xs ys := by
  induction xs generalizing ys with
  | nil =>
      rw [List.mapM_nil, List.forall₂_nil_left_iff]
      exact Option.some_inj.trans eq_comm
  | cons x xs ih =>
      simp only [List.mapM_cons, Option.bind_eq_bind, Option.bind_eq_some_iff, Option.pure_def,
        Option.some.injEq, List.forall₂_cons_left_iff, ih]
      constructor
      · rintro ⟨y, hy, zs, hzs, rfl⟩
        exact ⟨y, zs, hy, hzs, rfl⟩
      · rintro ⟨y, zs, hy, hzs, rfl⟩
        exact ⟨y, hy, zs, hzs, rfl⟩

/-- Where no two items have the same key, an item is the first with its key. -/
theorem find?_of_nodup_map [BEq β] [LawfulBEq β] {f : α → β} {xs : List α}
    (hkeys : (xs.map f).Nodup) {x : α} (hx : x ∈ xs) : xs.find? (f · == f x) = some x := by
  have hsome : (xs.find? (f · == f x)).isSome := List.find?_isSome.mpr ⟨x, hx, by simp⟩
  obtain ⟨y, hfind⟩ := Option.isSome_iff_exists.mp hsome
  have hkey := List.find?_some hfind
  rw [hfind, List.inj_on_of_nodup_map hkeys (List.mem_of_find?_eq_some hfind) hx (eq_of_beq hkey)]

theorem sublist_flatMap {f h : α → List β} {xs : List α}
    (hsub : ∀ x, (f x).Sublist (h x)) : (xs.flatMap f).Sublist (xs.flatMap h) := by
  induction xs with
  | nil => exact .refl _
  | cons x xs ih =>
      rw [List.flatMap_cons, List.flatMap_cons]
      exact (hsub x).append ih

theorem eq_of_length_flatMap {f h : α → List β} {xs : List α}
    (hsub : ∀ x, (f x).Sublist (h x)) (hlength : (xs.flatMap f).length = (xs.flatMap h).length) :
    ∀ x ∈ xs, f x = h x := by
  induction xs with
  | nil => simp
  | cons x xs ih =>
      rw [List.flatMap_cons, List.flatMap_cons, List.length_append, List.length_append] at hlength
      have hhead := (hsub x).length_le
      have htail : (xs.flatMap f).length ≤ (xs.flatMap h).length := (sublist_flatMap hsub).length_le
      refine List.forall_mem_cons.mpr ⟨(hsub x).eq_of_length (by omega), ih (by omega)⟩

/-! ## One for one, in any order -/

section Rel

variable {γ δ : Type} {R : α → β → Prop} {xs : List α} {ys : List β}

theorem rel_flatMap {S : γ → δ → Prop} {f : α → List γ} {h : β → List δ}
    (hxs : Multiset.Rel R xs ys) (hf : ∀ x y, R x y → Multiset.Rel S (f x) (h y)) :
    Multiset.Rel S (xs.flatMap f) (ys.flatMap h) := by
  rw [← Multiset.coe_bind, ← Multiset.coe_bind]
  exact Multiset.rel_bind (fun x y hxy => hf x y hxy) hxs

theorem perm_flatMap {f : α → List γ} {h : β → List γ} (hxs : Multiset.Rel R xs ys)
    (hf : ∀ x y, R x y → f x = h y) : (xs.flatMap f).Perm (ys.flatMap h) := by
  apply Multiset.coe_eq_coe.mp
  apply Multiset.rel_eq.mp
  refine rel_flatMap hxs fun x y hxy => ?_
  rw [hf x y hxy]
  exact Multiset.rel_eq_refl

end Rel

end GroupKeeper
