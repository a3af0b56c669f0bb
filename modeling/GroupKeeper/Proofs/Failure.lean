import Mathlib.Data.List.Basic
import GroupKeeper.Failure

/-! Collections of failures. They are lists: joining them joins the lists, and nothing failed
exactly where the list is empty. -/

namespace GroupKeeper

/-- The single failures that a failure consists of. -/
def Failure.leaves (f : Failure) : List Failure :=
  f.several?.getD [f]

namespace Failures

theorem ext_toList {fs gs : Failures} (h : fs.toList = gs.toList) : fs = gs := by
  cases fs
  cases gs
  exact congrArg mk h

@[simp] theorem toList_none : none.toList = [] :=
  rfl

@[simp] theorem none_append (fs : Failures) : none ++ fs = fs :=
  rfl

@[simp] theorem append_none (fs : Failures) : fs ++ none = fs :=
  ext_toList (List.append_nil _)

@[simp] theorem toList_append (fs gs : Failures) : (fs ++ gs).toList = fs.toList ++ gs.toList :=
  rfl

theorem toList_push (fs : Failures) (f : Failure) : (fs.push f).toList = fs.toList ++ f.leaves := by
  simp only [push, Failure.leaves]
  cases f.several? <;> rfl

theorem record_eq_append (fs : Failures) (r : Except Failure Unit) :
    fs.record r = fs ++ none.record r := by
  cases r with
  | ok u => exact (append_none fs).symm
  | error f => exact ext_toList (by simp [record, toList_push])

theorem toList_ofList (fs : List Failure) : (ofList fs).toList = fs.flatMap (·.leaves) := by
  suffices h : ∀ start : Failures, (fs.foldl push start).toList =
      start.toList ++ fs.flatMap (·.leaves) from h none
  induction fs with
  | nil => simp
  | cons f fs ih =>
      intro start
      rw [List.foldl_cons, ih, toList_push, List.flatMap_cons, List.append_assoc]

/-- Only the empty collection counts as success. -/
theorem result_eq_ok_iff {fs : Failures} : fs.result = .ok () ↔ fs = none := by
  simp only [result, isEmpty, List.isEmpty_iff]
  constructor
  · intro h
    split at h
    · next hnil => exact ext_toList hnil
    · simp at h
  · rintro rfl
    rfl

theorem result_eq_error_of_ne {fs : Failures} (h : fs.result ≠ .ok ()) : fs.result = .error fs := by
  rw [result] at h ⊢
  split
  · next hempty => exact absurd (if_pos hempty) h
  · rfl

theorem eq_none_iff {fs : Failures} : fs = none ↔ fs.toList = [] :=
  ⟨fun h => congrArg toList h, fun h => ext_toList h⟩

end Failures

end GroupKeeper
