import Mathlib.Logic.Relation
import GroupKeeper.Proofs.Schedule

/-! Programs that take turns. At each turn one of them makes its next call, and the others wait. To
each of them the others are steps that come between its own calls; running one after another is one
way to take turns. -/

namespace GroupKeeper.Program

open Relation (ReflTransGen)

variable {α β σ : Type}

/-! ## Turns -/

/-- The value of a program that makes no further call. -/
def value? (p : Program α) : Option α :=
  match p.afterLogs with
  | done a => some a
  | _ => none

/-- The program at a place makes its next call, if there is one. -/
def turn (client : Client σ) (i : Nat) (ps : List (Program α)) (s : σ) :
    List (Program α) × σ :=
  match ps[i]?.map afterLogs with
  | some (call c k) => (ps.set i (k (client c s).1), (client c s).2)
  | _ => (ps, s)

/-- Programs take turns, the order of their places being given. -/
def interleave (client : Client σ) : List Nat → List (Program α) → σ → List (Program α) × σ
  | [], ps, s => (ps, s)
  | i :: order, ps, s => interleave client order (turn client i ps s).1 (turn client i ps s).2

section Turns

variable {client : Client σ} {ps : List (Program α)} {p : Program α} {i j : Nat} {s : σ}

theorem afterLogs_of_value {a : α} (h : p.value? = some a) : p.afterLogs = done a := by
  cases hp : p.afterLogs with
  | done b => simpa [value?, hp] using h
  | log e q => simp [value?, hp] at h
  | call c k => simp [value?, hp] at h

theorem turn_of_call {c : Call} {k : Except Failure c.Reply → Program α} (hp : ps[i]? = some p)
    (hcall : p.afterLogs = call c k) :
    turn client i ps s = (ps.set i (k (client c s).1), (client c s).2) := by
  simp [turn, hp, hcall]

/-- A turn is a call of the program at its place, or it changes nothing. -/
theorem turn_cases (client : Client σ) (i : Nat) (ps : List (Program α)) (s : σ) :
    turn client i ps s = (ps, s) ∨ ∃ (p : Program α) (c : Call)
      (k : Except Failure c.Reply → Program α), ps[i]? = some p ∧ p.afterLogs = call c k ∧
        turn client i ps s = (ps.set i (k (client c s).1), (client c s).2) := by
  cases hp : ps[i]? with
  | none => exact .inl (by simp [turn, hp])
  | some p =>
      cases hcall : p.afterLogs with
      | done a => exact .inl (by simp [turn, hp, hcall])
      | log e q => exact .inl (by simp [turn, hp, hcall])
      | call c k => exact .inr ⟨p, c, k, rfl, hcall, turn_of_call hp hcall⟩

theorem interleave_append (first second : List Nat) (ps : List (Program α)) (s : σ) :
    interleave client (first ++ second) ps s =
      interleave client second (interleave client first ps s).1
        (interleave client first ps s).2 := by
  induction first generalizing ps s with
  | nil => rfl
  | cons i first ih => exact ih _ _

theorem length_interleave (client : Client σ) (order : List Nat) (ps : List (Program α)) (s : σ) :
    (interleave client order ps s).1.length = ps.length := by
  induction order generalizing ps s with
  | nil => rfl
  | cons i order ih =>
      rw [interleave, ih]
      rcases turn_cases client i ps s with hturn | ⟨p, c, k, -, -, hturn⟩
      · rw [hturn]
      · rw [hturn, List.length_set]

end Turns

/-! ## Conditions on every call -/

/-- The calls of each program satisfy a condition that goes with its place. -/
def AllCallsAt (P : Nat → Call → Prop) (ps : List (Program α)) : Prop :=
  ∀ (i : Nat) (p : Program α), ps[i]? = some p → p.AllCalls (P i)

section AllCallsAt

variable {client : Client σ} {P : Nat → Call → Prop} {ps : List (Program α)} {s : σ}

theorem AllCalls.afterLogs {Q : Call → Prop} {p : Program α} (h : p.AllCalls Q) :
    p.afterLogs.AllCalls Q := by
  induction p with
  | done a => exact h
  | log e p ih => exact ih h
  | call c k => exact h

theorem AllCallsAt.call (h : AllCallsAt P ps) {i : Nat} {p : Program α} (hp : ps[i]? = some p)
    {c : Call} {k : Except Failure c.Reply → Program α} (hcall : p.afterLogs = Program.call c k) :
    P i c ∧ ∀ r, AllCallsAt P (ps.set i (k r)) := by
  have hafter := (h i p hp).afterLogs
  rw [hcall] at hafter
  refine ⟨hafter.1, fun r j q hq => ?_⟩
  by_cases hij : i = j
  · subst hij
    rw [List.getElem?_set_self (List.getElem?_eq_some_iff.mp hp).1] at hq
    obtain rfl := Option.some.inj hq
    exact hafter.2 r
  · rw [List.getElem?_set_ne hij] at hq
    exact h j q hq

/-- What every single call keeps, programs that take turns keep. -/
theorem interleave_invariant {I : σ → Prop} (h : AllCallsAt P ps)
    (hstep : ∀ i c s, P i c → I s → I (client c s).2) (hs : I s) (order : List Nat) :
    I (interleave client order ps s).2 := by
  induction order generalizing ps s with
  | nil => exact hs
  | cons i order ih =>
      rw [interleave]
      rcases turn_cases client i ps s with hturn | ⟨p, c, k, hp, hcall, hturn⟩
      · rw [hturn]
        exact ih h hs
      · obtain ⟨hc, hrest⟩ := h.call hp hcall
        rw [hturn]
        exact ih (hrest _) (hstep i c s hc hs)

end AllCallsAt

/-! ## One program amid the others -/

/-- A program can give a value and take one state to another if other steps come between its
calls. -/
def Amid (client : Client σ) (step : σ → σ → Prop) : Program α → σ → α → σ → Prop
  | done a, s, v, t => v = a ∧ ReflTransGen step s t
  | log _ p, s, v, t => p.Amid client step s v t
  | call c k, s, v, t =>
    ∃ u, ReflTransGen step s u ∧ (k (client c u).1).Amid client step (client c u).2 v t

section Amid

variable {client : Client σ} {step : σ → σ → Prop} {p : Program α} {s t u : σ} {v : α}

theorem amid_afterLogs : p.afterLogs.Amid client step s v t ↔ p.Amid client step s v t := by
  induction p with
  | done a => exact Iff.rfl
  | log e p ih => exact ih
  | call c k => exact Iff.rfl

theorem Amid.of_value (h : p.value? = some v) : p.Amid client step s v s := by
  rw [← amid_afterLogs, afterLogs_of_value h]
  exact ⟨rfl, .refl⟩

theorem Amid.of_call {c : Call} {k : Except Failure c.Reply → Program α}
    (hcall : p.afterLogs = call c k)
    (h : (k (client c s).1).Amid client step (client c s).2 v t) : p.Amid client step s v t := by
  rw [← amid_afterLogs, hcall]
  exact ⟨s, .refl, h⟩

theorem Amid.of_step (hstep : step s u) (h : p.Amid client step u v t) :
    p.Amid client step s v t := by
  induction p with
  | done a => exact ⟨h.1, .head hstep h.2⟩
  | log e p ih => exact ih h
  | call c k =>
      obtain ⟨w, hw, hrest⟩ := h
      exact ⟨w, .head hstep hw, hrest⟩

theorem amid_bind {f : α → Program β} {w : β} (h : (p >>= f).Amid client step s w t) :
    ∃ v u, p.Amid client step s v u ∧ (f v).Amid client step u w t := by
  induction p generalizing s with
  | done a => exact ⟨a, s, ⟨rfl, .refl⟩, h⟩
  | log e p ih => exact ih h
  | call c k ih =>
      obtain ⟨u, hu, hrest⟩ := h
      obtain ⟨v, x, hv, hx⟩ := ih _ hrest
      exact ⟨v, x, ⟨u, hu, hv⟩, hx⟩

theorem Amid.mono {step' : σ → σ → Prop} (hstep : ∀ s t, step s t → step' s t)
    (h : p.Amid client step s v t) : p.Amid client step' s v t := by
  induction p generalizing s with
  | done a => exact ⟨h.1, ReflTransGen.mono hstep _ _ h.2⟩
  | log e p ih => exact ih h
  | call c k ih =>
      obtain ⟨u, hu, hrest⟩ := h
      exact ⟨u, ReflTransGen.mono hstep _ _ hu, ih _ hrest⟩

/-- Where programs take turns and one of them ends, the others were steps between its calls. -/
theorem amid_interleave {P : Nat → Call → Prop} {ps : List (Program α)} (h : AllCallsAt P ps)
    {j : Nat} (hp : ps[j]? = some p) (order : List Nat) {q : Program α}
    (hq : (interleave client order ps s).1[j]? = some q) (hended : q.value? = some v) :
    p.Amid client (fun s t => ∃ i c, i ≠ j ∧ P i c ∧ t = (client c s).2) s v
      (interleave client order ps s).2 := by
  induction order generalizing ps p s with
  | nil =>
      obtain rfl := Option.some.inj (hp.symm.trans hq)
      exact .of_value hended
  | cons i order ih =>
      rw [interleave] at hq ⊢
      rcases turn_cases client i ps s with hturn | ⟨p', c, k, hp', hcall, hturn⟩
      · rw [hturn] at hq ⊢
        exact ih h hp hq
      · obtain ⟨hc, hrest⟩ := h.call hp' hcall
        rw [hturn] at hq ⊢
        by_cases hij : i = j
        · -- A turn of its own.
          subst hij
          obtain rfl := Option.some.inj (hp.symm.trans hp')
          have hnext := List.getElem?_set_self (a := k (client c s).1)
            (List.getElem?_eq_some_iff.mp hp).1
          exact .of_call hcall (ih (hrest _) hnext hq)
        · have hsame : (ps.set i (k (client c s).1))[j]? = some p := by
            rw [List.getElem?_set_ne hij, hp]
          exact .of_step ⟨i, c, hij, hc, rfl⟩ (ih (hrest _) hsame hq)

end Amid

/-! ## One after another -/

section Sequential

variable (client : Client σ)

theorem exists_order_run (p : Program α) {q : Program α} (heq : q.afterLogs = p.afterLogs)
    {ps : List (Program α)} {i : Nat} (hq : ps[i]? = some q) (s : σ) :
    ∃ order q', interleave client order ps s = (ps.set i q', (p.run client s).state) ∧
      q'.value? = some (p.run client s).value := by
  -- The program that stands at the place may still have events to log before its next call.
  induction p generalizing q ps s with
  | done a =>
      obtain ⟨hi, rfl⟩ := List.getElem?_eq_some_iff.mp hq
      refine ⟨[], ps[i], by rw [List.set_getElem_self]; rfl, ?_⟩
      rw [value?, heq]
      rfl
  | log e p ih => exact ih heq hq s
  | call c k ih =>
      have hnext := List.getElem?_set_self (a := k (client c s).1)
        (List.getElem?_eq_some_iff.mp hq).1
      obtain ⟨order, q', hrest, hvalue⟩ := ih _ rfl hnext (client c s).2
      refine ⟨i :: order, q', ?_, hvalue⟩
      rw [interleave, turn_of_call hq heq, hrest, List.set_set]
      rfl

theorem exists_order_append (front ps : List (Program α)) (s : σ) :
    ∃ order qs, interleave client order (front ++ ps) s = (front ++ qs, endState client ps s) ∧
      qs.map value? = (endValues client ps s).map some := by
  induction ps generalizing front s with
  | nil => exact ⟨[], [], rfl, rfl⟩
  | cons p ps ih =>
      have hp : (front ++ p :: ps)[front.length]? = some p := by simp
      obtain ⟨first, q, hfirst, hq⟩ := exists_order_run client p rfl hp s
      obtain ⟨order, qs, horder, hqs⟩ := ih (front ++ [q]) (p.run client s).state
      refine ⟨first ++ order, q :: qs, ?_, ?_⟩
      · rw [interleave_append, hfirst]
        simpa using horder
      · simp [hq, hqs]

/-- Running one after another is a way of taking turns. -/
theorem exists_order (ps : List (Program α)) (s : σ) :
    ∃ order, (interleave client order ps s).1.map value? = (endValues client ps s).map some ∧
      (interleave client order ps s).2 = endState client ps s := by
  obtain ⟨order, qs, horder, hqs⟩ := exists_order_append client [] ps s
  rw [List.nil_append, List.nil_append] at horder
  exact ⟨order, by rw [horder]; exact hqs, by rw [horder]⟩

end Sequential

end GroupKeeper.Program
