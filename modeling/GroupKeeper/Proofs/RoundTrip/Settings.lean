import GroupKeeper.Rest.Service
import GroupKeeper.Proofs.Settings.Fields

/-! Settings as data. Managed settings are written where they are set, and everything else that is
carried along is written as it came. This is read back as it was, provided that nothing is carried
along under the field of a managed setting; and nothing is, in settings that were read. -/

namespace GroupKeeper

namespace Settings

variable {s : Settings} {value : Policy → Option String} {J : Dictionary Data}
  {es : List (String × Data)}

/-- Settings that carry nothing along under the field of a managed setting. -/
def Apart (s : Settings) : Prop :=
  ∀ p : Policy, s.other.get? p.field = none

/-- Settings that can have come out of a text: besides, no record that is carried along gives one
name to two fields. -/
structure Sound (s : Settings) : Prop where
  apart : s.Apart
  distinct : ∀ e ∈ s.other.entries, e.2.Distinct

/-! ## Writing and reading back -/

theorem carries_toData_of_apart (h : s.Apart) :
    ∃ fields, s.toData = .record fields ∧ Carries s.managed s.other fields :=
  carries_toData h fun _ _ => rfl

theorem managedField?_of_carries (h : Carries value J es) (p : Policy) :
    managedField? es p = some (value p) := by
  have hlookup := h.managed p
  rw [← map_find?_eq_lookup] at hlookup
  rw [managedField?]
  cases hfind : es.find? (·.1 == p.field) with
  | none =>
      rw [hfind] at hlookup
      rw [Option.map_eq_none_iff.mp hlookup.symm]
  | some e =>
      obtain ⟨key, x⟩ := e
      rw [hfind] at hlookup
      obtain ⟨v, hvalue, rfl⟩ := Option.map_eq_some_iff.mp hlookup.symm
      rw [hvalue]

theorem exists_ofEntries?_of_carries (h : Carries value J es) :
    ∃ t, ofEntries? es = some t ∧ t.managed = value := by
  have hall : Policy.all.all (fun p =>
      (es.filter (·.1 == p.field)).length ≤ 1 && (managedField? es p).isSome) = true := by
    refine List.all_eq_true.mpr fun p _ => ?_
    rw [managedField?_of_carries h, Option.isSome_some, Bool.and_true, decide_eq_true_eq]
    exact length_filter_le_one h.nodup p.field
  refine ⟨_, by rw [ofEntries?, if_pos hall], funext fun p => ?_⟩
  exact congrArg Option.join (managedField?_of_carries h p)

theorem ofData?_toData (h : s.Apart) : ofData? s.toData = some s := by
  obtain ⟨fields, hdata, hcarries⟩ := carries_toData_of_apart h
  obtain ⟨t, ht, hmanaged⟩ := exists_ofEntries?_of_carries hcarries
  have hother : t.other = s.other := by
    refine Dictionary.ext_get? fun key => ?_
    rw [get?_other_of_ofEntries? ht]
    -- Nothing was carried along under a managed field; any other field is found where it was put.
    by_cases hkey : ∃ p : Policy, key = p.field
    · obtain ⟨p, rfl⟩ := hkey
      rw [Policy.ofField?_field, h p]
      rfl
    · rw [not_exists] at hkey
      rw [Policy.ofField?_eq_none_iff.mpr hkey, ← hcarries.other key hkey]
      refine Option.ext fun v => ?_
      rw [if_pos Option.isNone_none, Dictionary.get?_ofList_eq_some_iff hcarries.nodup,
        lookup_eq_some_iff hcarries.nodup]
  obtain rfl : t = s := ext_managed (congrFun hmanaged) hother
  rw [hdata, ofData?]
  exact ht

/-- Settings that are read back from what is written of them: their managed fields that are set, and
the fields that they carry along. -/
structure RoundTrips (s : Settings) : Prop where
  reads : ofData? s.toData = some s
  carries : ∃ fields, s.toData = .record fields ∧ Carries s.managed s.other fields

theorem roundTrips (h : s.Apart) : s.RoundTrips :=
  ⟨ofData?_toData h, carries_toData_of_apart h⟩

theorem distinct_toData (h : s.Sound) : s.toData.Distinct := by
  obtain ⟨fields, hdata, hcarries⟩ := carries_toData_of_apart h.apart
  rw [hdata]
  refine .record hcarries.nodup fun f hf => ?_
  obtain rfl := Data.record.inj (s.toData_eq.symm.trans hdata)
  rcases List.mem_append.mp hf with hmanaged | hother
  · obtain ⟨p, -, hvalue⟩ := mem_table_iff.mp hmanaged
    obtain ⟨v, -, htext⟩ := Option.map_eq_some_iff.mp hvalue
    exact htext ▸ .text v
  · exact h.distinct f hother

/-! ## Settings that were read -/

theorem apart_of_ofEntries? (h : ofEntries? es = some s) : s.Apart := by
  intro p
  rw [get?_other_of_ofEntries? h, Policy.ofField?_field]
  rfl

theorem apart_of_ofData? {x : Data} (h : ofData? x = some s) : s.Apart := by
  obtain ⟨es, -, hes⟩ := Option.bind_eq_some_iff.mp h
  exact apart_of_ofEntries? hes

theorem sound_of_ofEntries? (h : ofEntries? es = some s) (hes : ∀ e ∈ es, e.2.Distinct) :
    s.Sound := by
  refine ⟨apart_of_ofEntries? h, fun e he => hes e ?_⟩
  rw [ofEntries?] at h
  split at h
  · obtain rfl := Option.some.inj h
    exact List.mem_of_mem_filter (Dictionary.mem_of_mem_ofList he)
  · simp at h

end Settings

/-! ## Settings from a text -/

namespace Json.Tree

mutual

/-- No record that is read out of a text gives one name to two fields. -/
theorem distinct_of_data? : (t : Tree) → {x : Data} → t.data? = some x → x.Distinct
  | .null, _, h => by
      obtain rfl := Option.some.inj h
      exact .null
  | .bool b, _, h => by
      obtain rfl := Option.some.inj h
      exact .bool b
  | .number n, _, h => by
      obtain ⟨v, -, rfl⟩ := Option.map_eq_some_iff.mp h
      exact .number v
  | .text s, _, h => by
      obtain ⟨v, -, rfl⟩ := Option.map_eq_some_iff.mp h
      exact .text v
  | .list xs, _, h => by
      obtain ⟨ys, hys, rfl⟩ := Option.map_eq_some_iff.mp h
      exact .list (distinct_of_dataList? xs hys)
  | .record ms, _, h => by
      obtain ⟨es, hes, rfl⟩ := Option.map_eq_some_iff.mp h
      refine .record (Dictionary.ofList es).nodup_keys fun e he => ?_
      exact distinct_of_dataEntries? ms hes e (Dictionary.mem_of_mem_ofList he)

theorem distinct_of_dataList? : (ts : List Tree) → {xs : List Data} → dataList? ts = some xs →
    ∀ x ∈ xs, x.Distinct
  | [], _, h => by
      obtain rfl := Option.some.inj h
      simp
  | t :: ts, _, h => by
      simp only [dataList?, Option.bind_eq_bind, Option.bind_eq_some_iff, Option.pure_def,
        Option.some.injEq] at h
      obtain ⟨x, hx, xs, hxs, rfl⟩ := h
      exact List.forall_mem_cons.mpr ⟨distinct_of_data? t hx, distinct_of_dataList? ts hxs⟩

theorem distinct_of_dataEntries? : (ms : List (Option String × Tree)) →
    {es : List (String × Data)} → dataEntries? ms = some es → ∀ e ∈ es, e.2.Distinct
  | [], _, h => by
      obtain rfl := Option.some.inj h
      simp
  | (_, t) :: ms, _, h => by
      simp only [dataEntries?, Option.bind_eq_bind, Option.bind_eq_some_iff, Option.pure_def,
        Option.some.injEq] at h
      obtain ⟨k, -, x, hx, es, hes, rfl⟩ := h
      exact List.forall_mem_cons.mpr ⟨distinct_of_data? t hx, distinct_of_dataEntries? ms hes⟩

end

end Json.Tree

theorem Rest.Service.sound_of_readSettings {t : Json.Tree} {s : Settings}
    (h : readSettings t = some s) : s.Sound := by
  obtain ⟨-, -, h⟩ := Option.bind_eq_some_iff.mp h
  cases t with
  | record ms =>
      obtain ⟨es, hes, hsettings⟩ := Option.bind_eq_some_iff.mp h
      exact Settings.sound_of_ofEntries? hsettings (Json.Tree.distinct_of_dataEntries? ms hes)
  | null | bool | number | text | list => simp at h

end GroupKeeper
