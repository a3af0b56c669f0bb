import GroupKeeper.Validation
import GroupKeeper.Proofs.Settings

/-! The wanted settings of a group as tables. Laid over the settings that were there are the
defaults, and over them the group's own choices, as far as their keys name settings. The other keys
are those of which checking a roster warns. -/

namespace GroupKeeper

namespace Dictionary

variable {β : Type}

/-- A table with another one laid over it. Where both have a key, the upper one counts. -/
def overlay (lower upper : Dictionary β) : Dictionary β :=
  upper.entries.foldl (fun d e => d.insert e.1 e.2) lower

/-- The entries of a table whose keys satisfy a condition. -/
def restrict (d : Dictionary β) (p : String → Bool) : Dictionary β :=
  ⟨d.entries.filter (p ·.1), d.sorted.filter _⟩

theorem get?_foldl_insert {es : List (String × β)} (hs : es.Pairwise fun a b => a.1 < b.1)
    (d : Dictionary β) (key : String) :
    (es.foldl (fun d e => d.insert e.1 e.2) d).get? key =
      ((es.find? (·.1 == key)).map (·.2)).or (d.get? key) := by
  induction es generalizing d with
  | nil => rfl
  | cons e es ih =>
      have hfresh := find?_head_eq_none hs
      rw [List.foldl_cons, ih hs.of_cons, get?_insert]
      by_cases heq : e.1 = key
      · rw [heq] at hfresh
        simp [heq, hfresh]
      · simp [heq, Ne.symm heq]

theorem get?_overlay (lower upper : Dictionary β) (key : String) :
    (lower.overlay upper).get? key = (upper.get? key).or (lower.get? key) :=
  get?_foldl_insert upper.sorted lower key

theorem get?_restrict (d : Dictionary β) (p : String → Bool) (key : String) :
    (d.restrict p).get? key = if p key then d.get? key else none := by
  refine Option.ext fun v => ?_
  rw [get?_eq_some_iff, restrict, List.mem_filter]
  by_cases h : p key
  · simp [h, get?_eq_some_iff]
  · simp [h]

end Dictionary

/-- The defaults by the names of their settings. -/
def Policy.defaultTable : Dictionary String :=
  .ofList (defaults.map fun d => (d.1.name, d.2))

namespace Settings

/-! ## Looking up any key -/

theorem get?_defaultTable (p : Policy) : Policy.defaultTable.get? p.name = p.default? := by
  have hkeys : ((Policy.defaults.map fun d => (d.1.name, d.2)).map (·.1)).Nodup := by
    have hsettings : (Policy.defaults.map (·.1)).Nodup := by
      decide
    simpa [List.map_map, Function.comp_def] using hsettings.map Policy.name_injective
  have hdefault : ∀ d ∈ Policy.defaults, d.1.default? = some d.2 := by
    decide
  refine Option.ext fun v => ?_
  rw [Policy.defaultTable, Dictionary.get?_ofList_eq_some_iff hkeys, List.mem_map]
  constructor
  · rintro ⟨d, hd, heq⟩
    obtain ⟨hname, rfl⟩ := Prod.mk.inj heq
    rw [← Policy.name_injective hname]
    exact hdefault d hd
  · intro hvalue
    obtain ⟨d, hfind, rfl⟩ := Option.map_eq_some_iff.mp hvalue
    obtain rfl : d.1 = p := by simpa using List.find?_some hfind
    exact ⟨d, List.mem_of_find?_eq_some hfind, rfl⟩

/-- A table that was made of names of settings has nothing under any other key. -/
theorem get?_ofList_of_unknown {es : List (String × String)}
    (hnames : ∀ e ∈ es, ∃ p : Policy, p.name = e.1) {key : String}
    (hkey : Policy.ofName? key = none) : (Dictionary.ofList es).get? key = none := by
  rw [Dictionary.get?_ofList, Option.map_eq_none_iff, List.find?_eq_none]
  intro e he heq
  obtain ⟨p, hp⟩ := hnames e (List.mem_reverse.mp he)
  rw [← eq_of_beq heq, ← hp, Policy.ofName?_name] at hkey
  simp at hkey

theorem get?_managedTable_of_unknown (s : Settings) {key : String}
    (hkey : Policy.ofName? key = none) : s.managedTable.get? key = none := by
  refine get?_ofList_of_unknown (fun e he => ?_) hkey
  obtain ⟨p, hname, -⟩ := mem_table_iff.mp he
  exact ⟨p, hname⟩

theorem get?_defaultTable_of_unknown {key : String} (hkey : Policy.ofName? key = none) :
    Policy.defaultTable.get? key = none := by
  refine get?_ofList_of_unknown (fun e he => ?_) hkey
  obtain ⟨d, -, rfl⟩ := List.mem_map.mp he
  exact ⟨d.1, rfl⟩

/-- The settings that are wanted, by name: what was set, under the defaults, under the choices that
name settings. -/
theorem managedTable_desired (s : Settings) (overrides : Dictionary String) :
    (s.desired overrides).1.managedTable =
      (s.managedTable.overlay Policy.defaultTable).overlay (overrides.restrict isKnownKey) := by
  refine Dictionary.ext_get? fun key => ?_
  rw [Dictionary.get?_overlay, Dictionary.get?_overlay, Dictionary.get?_restrict, isKnownKey]
  cases hkey : Policy.ofName? key with
  | none =>
      rw [get?_managedTable_of_unknown _ hkey, get?_managedTable_of_unknown _ hkey,
        get?_defaultTable_of_unknown hkey]
      rfl
  | some p =>
      obtain rfl := Policy.name_of_ofName? hkey
      rw [get?_managedTable, get?_managedTable, get?_defaultTable, managed_desired]
      rfl

/-! ## Keys that name nothing -/

/-- Whether a key of a group's settings is neither a setting nor a control key. -/
def isStray (key : String) : Bool :=
  !isKnownKey key && !controlKeys.contains key

/-- A key that names nothing is noted after those before it. -/
theorem snd_override (state : Settings × List String) (entry : String × String) :
    (override state entry).2 = state.2 ++ [entry.1].filter isStray := by
  cases hkey : Policy.ofName? entry.1 with
  | some p => simp [override, set?, isStray, isKnownKey, hkey]
  | none =>
      by_cases hcontrol : entry.1 ∈ controlKeys
      · simp [override, set?, isStray, isKnownKey, hkey, hcontrol]
      · simp [override, set?, isStray, isKnownKey, hkey, hcontrol]

theorem snd_foldl_override (es : List (String × String)) (state : Settings × List String) :
    (es.foldl override state).2 = state.2 ++ (es.map (·.1)).filter isStray := by
  induction es generalizing state with
  | nil => simp
  | cons e es ih =>
      rw [List.foldl_cons, ih, snd_override, List.append_assoc, ← List.filter_append]
      rfl

/-- The keys that name nothing are found in their order, whatever was set. -/
theorem unknown_desired (s : Settings) (overrides : Dictionary String) :
    (s.desired overrides).2 = overrides.keys.filter isStray := by
  rw [desired, snd_foldl_override]
  rfl

theorem warnings_singleton (g : GroupSpec) :
    Validation.warnings ⟨[g]⟩ = if g.emailId.isEmpty then []
      else (g.settings.keys.filter isStray).map (.settingUnrecognized g.emailId) := by
  have hstray : Validation.unrecognized g = g.settings.keys.filter isStray := rfl
  cases h : g.emailId.isEmpty with
  | true => simp [Validation.warnings, h]
  | false => simp [Validation.warnings, hstray, h]

/-- Settings are merged with the choices of a group: the managed ones as tables are laid over each
other, every other field is carried along, and the keys that name nothing are noted in their order.
These are the keys of which checking a group with these choices warns, if it is looked at. Merging
the outcome again gives it back. -/
theorem desired_merges (current : Settings) (overrides : Dictionary String) :
    ∃ wanted unknown, current.desired overrides = (wanted, unknown) ∧
      wanted.managedTable = (current.managedTable.overlay Policy.defaultTable).overlay
        (overrides.restrict isKnownKey) ∧
      wanted.other = current.other ∧
      unknown = overrides.keys.filter isStray ∧ unknown.Pairwise (· < ·) ∧
      (∀ g : GroupSpec, Validation.warnings ⟨[{ g with settings := overrides }]⟩ =
        if g.emailId.isEmpty then [] else unknown.map (.settingUnrecognized g.emailId)) ∧
      wanted.desired overrides = (wanted, unknown) := by
  have hunknown := unknown_desired current overrides
  have hrising : overrides.keys.Pairwise (· < ·) := List.pairwise_map.mpr overrides.sorted
  refine ⟨(current.desired overrides).1, (current.desired overrides).2, rfl,
    managedTable_desired current overrides, other_desired current overrides, hunknown,
    hunknown ▸ hrising.filter isStray, fun g => ?_, ?_⟩
  · rw [warnings_singleton, hunknown]
  · refine Prod.ext (desired_desired current overrides) ?_
    rw [unknown_desired, hunknown]

end Settings

end GroupKeeper
