import Mathlib.Data.List.Nodup
import GroupKeeper.Settings
import GroupKeeper.Proofs.Dictionary

/-! The wanted settings of a group, one setting at a time. A group's own choice counts before the
default, and the default before what was set; all else stays as it is. Wanting the same settings
again therefore changes nothing. -/

namespace GroupKeeper

namespace Policy

@[simp] theorem ofName?_name (p : Policy) : ofName? p.name = some p := by
  cases p <;> decide

theorem name_of_ofName? {s : String} {p : Policy} (h : ofName? s = some p) : s = p.name := by
  rw [ofName?] at h
  have hname := List.find?_some h
  exact (eq_of_beq hname).symm

theorem ofName?_eq_some_iff {s : String} {p : Policy} : ofName? s = some p ↔ s = p.name :=
  ⟨name_of_ofName?, fun h => h ▸ ofName?_name p⟩

theorem name_injective : Function.Injective name := by
  intro p q h
  exact Option.some.inj (by rw [← ofName?_name p, h, ofName?_name])

theorem nodup_all : all.Nodup := by
  decide

/-- The value that a setting is reset to. -/
def default? (p : Policy) : Option String :=
  (defaults.find? (·.1 == p)).map (·.2)

end Policy

namespace Settings

theorem ext_managed {s t : Settings} (hmanaged : ∀ p, s.managed p = t.managed p)
    (hother : s.other = t.other) : s = t := by
  cases s
  cases t
  simp only [mk.injEq]
  exact ⟨funext hmanaged, hother⟩

theorem managed_put (s : Settings) (p : Policy) (value : String) (q : Policy) :
    (s.put p value).managed q = if q = p then some value else s.managed q :=
  rfl

theorem managed_withDefaults (s : Settings) (p : Policy) :
    s.withDefaults.managed p = p.default?.or (s.managed p) := by
  cases p <;> rfl

@[simp] theorem other_withDefaults (s : Settings) : s.withDefaults.other = s.other :=
  rfl

/-- An override sets the setting that its key names. -/
theorem managed_override (state : Settings × List String) (entry : String × String) (p : Policy) :
    (override state entry).1.managed p =
      if entry.1 = p.name then some entry.2 else state.1.managed p := by
  simp only [override, set?]
  cases h : Policy.ofName? entry.1 with
  | none =>
      have hne : entry.1 ≠ p.name := by
        intro heq
        simp [heq] at h
      simp only [Option.map_none, hne, if_false]
      split <;> rfl
  | some q =>
      have heq : entry.1 = p.name ↔ p = q := by
        rw [← Policy.ofName?_eq_some_iff, h, Option.some.injEq, eq_comm]
      simp only [Option.map_some, managed_put, heq]

theorem other_override (state : Settings × List String) (entry : String × String) :
    (override state entry).1.other = state.1.other := by
  simp only [override, set?]
  cases Policy.ofName? entry.1 with
  | none =>
      simp only [Option.map_none]
      split <;> rfl
  | some q => rfl

theorem managed_foldl_override {es : List (String × String)}
    (hs : es.Pairwise fun a b => a.1 < b.1) (state : Settings × List String) (p : Policy) :
    (es.foldl override state).1.managed p =
      ((es.find? (·.1 == p.name)).map (·.2)).or (state.1.managed p) := by
  induction es generalizing state with
  | nil => rfl
  | cons e es ih =>
      have hfresh := Dictionary.find?_head_eq_none hs
      rw [List.foldl_cons, ih hs.of_cons, managed_override]
      by_cases heq : e.1 = p.name
      · rw [heq] at hfresh
        simp [heq, hfresh]
      · simp [heq]

theorem other_foldl_override (es : List (String × String)) (state : Settings × List String) :
    (es.foldl override state).1.other = state.1.other := by
  induction es generalizing state with
  | nil => rfl
  | cons e es ih => rw [List.foldl_cons, ih, other_override]

/-- A wanted setting is the group's choice, else the default, else what was set. -/
theorem managed_desired (s : Settings) (overrides : Dictionary String) (p : Policy) :
    (s.desired overrides).1.managed p =
      (overrides.get? p.name).or (p.default?.or (s.managed p)) := by
  rw [desired, managed_foldl_override overrides.sorted, managed_withDefaults, Dictionary.get?]

@[simp] theorem other_desired (s : Settings) (overrides : Dictionary String) :
    (s.desired overrides).1.other = s.other := by
  rw [desired, other_foldl_override, other_withDefaults]

/-- Settings that are as wanted stay as they are. -/
@[simp] theorem desired_desired (s : Settings) (overrides : Dictionary String) :
    ((s.desired overrides).1.desired overrides).1 = (s.desired overrides).1 := by
  refine ext_managed (fun p => ?_) (by simp)
  simp only [managed_desired]
  cases overrides.get? p.name <;> cases p.default? <;> rfl

/-! ## Tables of settings -/

section Table

variable {β : Type} {label : Policy → String} {value : Policy → Option β}

/-- The values of the settings that have one, under labels. -/
theorem mem_table_iff {key : String} {v : β} :
    (key, v) ∈ Policy.all.filterMap (fun p => (value p).map (label p, ·)) ↔
      ∃ p, label p = key ∧ value p = some v := by
  simp [List.mem_filterMap, Policy.mem_all, and_comm]

theorem nodup_keys_table (hlabel : Function.Injective label) :
    ((Policy.all.filterMap fun p => (value p).map (label p, ·)).map (·.1)).Nodup := by
  rw [List.map_filterMap]
  refine Policy.nodup_all.filterMap fun p q key hp hq => hlabel ?_
  simp only [Option.map_map, Option.mem_def, Option.map_eq_some_iff, Function.comp_apply] at hp hq
  obtain ⟨-, -, hp⟩ := hp
  obtain ⟨-, -, hq⟩ := hq
  exact hp.trans hq.symm

end Table

/-- The settings that are written into a roster can be looked up by name. -/
theorem get?_managedTable (s : Settings) (p : Policy) :
    s.managedTable.get? p.name = s.managed p := by
  refine Option.ext fun v => ?_
  rw [managedTable, Dictionary.get?_ofList_eq_some_iff (nodup_keys_table Policy.name_injective),
    mem_table_iff]
  constructor
  · rintro ⟨q, hname, hvalue⟩
    rwa [← Policy.name_injective hname]
  · exact fun hvalue => ⟨p, rfl, hvalue⟩

/-- Where all settings with a default are set, asking for the settings as they are changes
nothing. -/
theorem desired_eq_self {s : Settings} {overrides : Dictionary String}
    (hoverrides : ∀ p, overrides.get? p.name = s.managed p)
    (hset : ∀ q ∈ Policy.defaults, (s.managed q.1).isSome) : (s.desired overrides).1 = s := by
  refine ext_managed (fun p => ?_) (other_desired s overrides)
  rw [managed_desired, hoverrides]
  cases hvalue : s.managed p with
  | some v => rfl
  | none =>
      have hdefault : p.default? = none := by
        rw [Policy.default?, Option.map_eq_none_iff, List.find?_eq_none]
        intro q hq hkey
        obtain rfl : q.1 = p := by simpa using hkey
        simpa [hvalue] using hset q hq
      rw [hdefault]
      rfl

end Settings

end GroupKeeper
