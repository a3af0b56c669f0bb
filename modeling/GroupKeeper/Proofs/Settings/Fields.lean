import GroupKeeper.Proofs.Data.Records
import GroupKeeper.Proofs.Settings

/-! Settings as fields of a record. Reading a record takes the managed settings from their fields
and carries all other fields along; writing puts both back. No field is lost, and none comes
twice. -/

namespace GroupKeeper

namespace Policy

@[simp] theorem ofField?_field (p : Policy) : ofField? p.field = some p := by
  cases p <;> decide

/-- A setting goes by one name with rosters and with the settings service, but for its first
letter. -/
theorem capitalize_field (p : Policy) : p.field.capitalize = p.name := by
  cases p <;> rfl

theorem field_injective : Function.Injective field := by
  intro p q h
  exact Option.some.inj (by rw [← ofField?_field p, h, ofField?_field])

theorem ofField?_eq_none_iff {key : String} :
    ofField? key = none ↔ ∀ p : Policy, key ≠ p.field := by
  simp only [ofField?, List.find?_eq_none, beq_iff_eq]
  exact ⟨fun h p heq => h p p.mem_all heq.symm, fun h p _ heq => h p heq.symm⟩

end Policy

namespace Settings

variable {es : List (String × Data)} {s t : Settings} {J : Dictionary Data}

/-! ## Reading -/

/-- The text that an object has under the field of a setting, if it has one. -/
def textUnder (J : Dictionary Data) (p : Policy) : Option String :=
  match J.get? p.field with
  | some (.text v) => some v
  | _ => none

/-- Of entries that hold for at most one item, the first and the last one are the same. -/
theorem find?_reverse_of_length_filter {α : Type} {p : α → Bool} {xs : List α}
    (h : (xs.filter p).length ≤ 1) : xs.reverse.find? p = xs.find? p := by
  rw [← List.head?_filter, ← List.head?_filter, List.filter_reverse]
  cases hxs : xs.filter p with
  | nil => rfl
  | cons x rest =>
      cases rest with
      | nil => rfl
      | cons y rest => simp [hxs] at h

theorem join_managedField? {p : Policy} (h : (managedField? es p).isSome) :
    (managedField? es p).join = match (es.find? (·.1 == p.field)).map (·.2) with
      | some (.text v) => some v
      | _ => none := by
  rw [managedField?] at h ⊢
  cases hfind : es.find? (·.1 == p.field) with
  | none => rfl
  | some e =>
      obtain ⟨key, value⟩ := e
      cases value with
      | null | text => rfl
      | bool | number | list | record => simp [hfind] at h

/-- A managed setting is the text under its field. -/
theorem managed_of_ofEntries? (h : ofEntries? es = some s) (p : Policy) :
    s.managed p = textUnder (.ofList es) p := by
  rw [ofEntries?] at h
  split at h
  · next hall =>
    obtain rfl := Option.some.inj h
    have hp := List.all_eq_true.mp hall p p.mem_all
    simp only [Bool.and_eq_true, decide_eq_true_eq] at hp
    rw [textUnder, Dictionary.get?_ofList, find?_reverse_of_length_filter hp.1]
    exact join_managedField? hp.2
  · simp at h

/-- Every other field is carried along. -/
theorem get?_other_of_ofEntries? (h : ofEntries? es = some s) (key : String) :
    s.other.get? key =
      if (Policy.ofField? key).isNone then (Dictionary.ofList es).get? key else none := by
  rw [ofEntries?] at h
  split at h
  · obtain rfl := Option.some.inj h
    have hsame : (fun e : String × Data => (Policy.ofField? e.1).isNone && e.1 == key) =
        fun e => (Policy.ofField? key).isNone && e.1 == key := by
      funext e
      by_cases heq : e.1 = key
      · rw [heq]
      · simp [beq_false_of_ne heq]
    rw [Dictionary.get?_ofList, Dictionary.get?_ofList, ← List.filter_reverse, List.find?_filter]
    simp only [Bool.decide_and, Bool.decide_eq_true, hsame]
    by_cases hkey : (Policy.ofField? key).isNone = true
    · simp only [hkey, Bool.true_and, if_true]
    · simp [hkey]
  · simp at h

/-! ## Writing -/

/-- Fields of which none comes twice: the given values under the fields of the settings, and under
every other name what an object has there. -/
structure Carries (value : Policy → Option String) (J : Dictionary Data)
    (fields : List (String × Data)) : Prop where
  nodup : (fields.map (·.1)).Nodup
  managed : ∀ p : Policy, fields.lookup p.field = (value p).map .text
  other : ∀ key, (∀ p : Policy, key ≠ p.field) → fields.lookup key = J.get? key

theorem toData_eq (s : Settings) : s.toData =
    .record ((Policy.all.filterMap fun p => ((s.managed p).map Data.text).map (p.field, ·)) ++
      s.other.entries) := by
  simp [toData, Function.comp_def]

/-- Settings are written with their managed fields, and with those that were carried along. -/
theorem carries_toData (hmanaged : ∀ p : Policy, s.other.get? p.field = none)
    (hother : ∀ key, (∀ p : Policy, key ≠ p.field) → s.other.get? key = J.get? key) :
    ∃ fields, s.toData = .record fields ∧ Carries s.managed J fields := by
  refine ⟨_, s.toData_eq, ?_⟩
  have hapart : ∀ p v, (Policy.field p, v) ∉ s.other.entries := by
    intro p v hmem
    have hnone := hmanaged p
    rw [Dictionary.get?_eq_some_iff.mpr hmem] at hnone
    simp at hnone
  have hnodup : (((Policy.all.filterMap fun p => ((s.managed p).map Data.text).map
      (Policy.field p, ·)) ++ s.other.entries).map (·.1)).Nodup := by
    rw [List.map_append, List.nodup_append]
    refine ⟨nodup_keys_table Policy.field_injective, s.other.nodup_keys, ?_⟩
    rintro _ hkey _ hother rfl
    obtain ⟨e, he, hfield⟩ := List.mem_map.mp hkey
    obtain ⟨p, hp, -⟩ := mem_table_iff.mp he
    obtain ⟨⟨key, v⟩, hmem, rfl⟩ := List.mem_map.mp hother
    obtain rfl : p.field = key := hp.trans hfield
    exact hapart p v hmem
  refine ⟨hnodup, fun p => Option.ext fun v => ?_, fun key hkey => Option.ext fun v => ?_⟩
  · rw [lookup_eq_some_iff hnodup, List.mem_append, mem_table_iff]
    constructor
    · rintro (⟨q, hfield, hvalue⟩ | hmem)
      · rwa [← Policy.field_injective hfield]
      · exact absurd hmem (hapart p v)
    · exact fun hvalue => .inl ⟨p, rfl, hvalue⟩
  · rw [lookup_eq_some_iff hnodup, List.mem_append, mem_table_iff, ← hother key hkey,
      Dictionary.get?_eq_some_iff]
    constructor
    · rintro (⟨q, hfield, -⟩ | hmem)
      · exact absurd hfield.symm (hkey q)
      · exact hmem
    · exact .inr

/-- Settings that carry the same fields along are written alike only if they are the same. -/
theorem toData_inj (hother : s.other = t.other) : s.toData = t.toData ↔ s = t := by
  refine ⟨fun h => ?_, congrArg toData⟩
  rw [toData_eq, toData_eq, hother, Data.record.injEq, List.append_cancel_right_eq] at h
  refine ext_managed (fun p => Option.ext fun v => ?_) hother
  have hmem := congrArg ((p.field, Data.text v) ∈ ·) h
  simp only [mem_table_iff, eq_iff_iff] at hmem
  simpa [Policy.field_injective.eq_iff] using hmem

end Settings

end GroupKeeper
