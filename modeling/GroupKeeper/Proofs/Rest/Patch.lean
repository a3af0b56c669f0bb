import Mathlib.Data.Option.Basic
import GroupKeeper.Reconcile.Policies
import GroupKeeper.Rest.Service
import GroupKeeper.Proofs.Program
import GroupKeeper.Proofs.Reconcile.Calls
import GroupKeeper.Proofs.Rest.Service
import GroupKeeper.Proofs.Settings.Fields

/-! A patch of settings changes what is managed and nothing else. What is sent is the object that
was received, with the managed fields as they are wanted; and nothing is sent if that is the object
that was received. -/

namespace GroupKeeper

namespace Rest

variable {s : Service} {n : Network} {a : Address}

/-! ## Settings as they are received -/

namespace Service

/-- A body that holds settings is an object. Its managed fields are the settings, and all others are
carried along. -/
theorem readSettings_eq_some {t : Json.Tree} {current : Settings}
    (h : readSettings t = some current) {J : Dictionary Data}
    (hJ : t.data? = some (.record J.entries)) :
    current.managed = Settings.textUnder J ∧
      (∀ p : Policy, current.other.get? p.field = none) ∧
      ∀ key, (∀ p : Policy, key ≠ p.field) → current.other.get? key = J.get? key := by
  obtain ⟨-, -, h⟩ := Option.bind_eq_some_iff.mp h
  cases t with
  | record ms =>
      obtain ⟨es, hes, hcurrent⟩ := Option.bind_eq_some_iff.mp h
      rw [Json.Tree.data?, hes, Option.map_some, Option.some.injEq, Data.record.injEq] at hJ
      obtain rfl : Dictionary.ofList es = J := Dictionary.ext_entries hJ
      refine ⟨funext (Settings.managed_of_ofEntries? hcurrent), fun p => ?_, fun key hkey => ?_⟩
      · rw [Settings.get?_other_of_ofEntries? hcurrent, Policy.ofField?_field]
        rfl
      · rw [Settings.get?_other_of_ofEntries? hcurrent, Policy.ofField?_eq_none_iff.mpr hkey]
        rfl
  | null | bool | number | text | list => simp at h

/-- Settings are received by one request, with the answer that was next. -/
theorem getSettings_eq_ok {group : String} {current : Settings}
    (h : (s.client (.getSettings group) n).1 = .ok current) :
    ∃ a r rest, s.settingsAddress group = .ok a ∧
      n.accepts ⟨.get, a, "Bearer " ++ s.token, none⟩ = true ∧ n.replies = .answer r :: rest ∧
      (Json.Tree.parse? r.body).bind readSettings = some current ∧
      s.client (.getSettings group) n =
        (.ok current, { n with replies := rest, sent := n.sent ++ [s.noted .get a none] }) := by
  rw [client] at h ⊢
  cases haddress : s.settingsAddress group with
  | error f => simp [haddress, withAddress] at h
  | ok a =>
      rw [haddress, withAddress] at h
      have hfetch : s.fetch readSettings .get a none n =
          (.ok current, (s.fetch readSettings .get a none n).2) := Prod.ext h rfl
      obtain ⟨haccepts, r, rest, hreplies, hread, hn⟩ := fetch_eq_ok hfetch
      exact ⟨a, r, rest, rfl, haccepts, hreplies, hread, hfetch.trans (congrArg (Prod.mk _) hn)⟩

theorem sent_patchSettings {group : String} {wanted : Settings}
    (haddress : s.settingsAddress group = .ok a)
    (haccepts : n.accepts ⟨.patch, a, "Bearer " ++ s.token, some wanted.toData⟩ = true) :
    (s.client (.patchSettings group wanted) n).2.sent =
      n.sent ++ [s.noted .patch a (some wanted.toData)] := by
  rw [client, haddress]
  exact sent_fetch haccepts

end Service

end Rest

namespace Reconcile

open Program

/-! ## Settings as they are sent -/

/-- What a group's settings should say of a setting: what is chosen for the group under its name,
else the default, else what an object has under its field. -/
def wantedText (J : Dictionary Data) (overrides : Dictionary String) (p : Policy) : Option String :=
  (overrides.get? p.field.capitalize).or (p.default?.or (Settings.textUnder J p))

/-- The settings are patched if they are not as wanted. -/
theorem state_run_updateSettings {σ : Type} {client : Client σ} {mode : Mode} {g : GroupSpec}
    {current : Settings} {s s' : σ} (hconfirm : mode.confirm = true)
    (hget : client (.getSettings g.emailId) s = (.ok current, s')) :
    ((updateSettings mode g).run client s).state =
      if (current.desired g.settings).1 = current then s'
      else (client (.patchSettings g.emailId (current.desired g.settings).1) s').2 := by
  rw [updateSettings, emit_bind, run_log, ask_bind, run_call, hget]
  dsimp only
  cases current.desired g.settings with
  | mk wanted unknown =>
      have hwarned : Quiet client (warnUnknown g.emailId unknown) s' () := quiet_warnUnknown _ _
      dsimp only
      rw [run_bind, hwarned.state]
      by_cases hwanted : wanted = current
      · rw [if_pos hwanted, if_pos hwanted]
        rfl
      · rw [if_neg hwanted, if_neg hwanted, if_pos hconfirm, ask_bind, run_call]
        cases (client (.patchSettings g.emailId wanted) s').1 <;> rfl

/-- What was received and what is wanted, as fields. They are the same exactly if every setting is
as wanted, that is, if every text is. -/
theorem exists_fields {current : Settings} {J : Dictionary Data} {t : Json.Tree}
    (hread : Rest.Service.readSettings t = some current)
    (hdata : t.data? = some (.record J.entries)) (overrides : Dictionary String) :
    ∃ given wanted, current.toData = .record given ∧
      (current.desired overrides).1.toData = .record wanted ∧
      Settings.Carries (Settings.textUnder J) J given ∧
      Settings.Carries (wantedText J overrides) J wanted ∧
      (wanted = given ↔ (current.desired overrides).1 = current) ∧
      ((current.desired overrides).1 = current ↔
        wantedText J overrides = Settings.textUnder J) := by
  obtain ⟨hmanaged, hfree, hother⟩ := Rest.Service.readSettings_eq_some hread hdata
  have hwanted : (current.desired overrides).1.managed = wantedText J overrides := by
    funext p
    rw [Settings.managed_desired, hmanaged, wantedText, Policy.capitalize_field]
  have hcarried : (current.desired overrides).1.other = current.other :=
    Settings.other_desired current overrides
  obtain ⟨given, hgiven, hcarries⟩ := Settings.carries_toData hfree hother
  obtain ⟨wanted, hsent, hcarries'⟩ :=
    Settings.carries_toData (hcarried ▸ hfree) (hcarried ▸ hother)
  refine ⟨given, wanted, hgiven, hsent, hmanaged ▸ hcarries, hwanted ▸ hcarries', ?_, ?_⟩
  · rw [← Settings.toData_inj hcarried, hsent, hgiven, Data.record.injEq]
  · rw [← hwanted, ← hmanaged]
    exact ⟨congrArg Settings.managed, fun h => Settings.ext_managed (congrFun h) hcarried⟩

/-- Let the answer to a request for settings be read, and let its body be the object `J`. Where
changes are confirmed, updating the settings then sends that request and the patch with the object
that has the wanted texts under the fields of the settings and everything else as in `J`, unless
that is the object as which the received settings would be sent, that is, unless all the wanted
texts are in `J`. -/
theorem updateSettings_patches {s : Rest.Service} {mode : Mode} (hconfirm : mode.confirm = true)
    {g : GroupSpec} {n : Rest.Network} {r : Rest.Response} {J : Dictionary Data}
    {current : Settings} (hreply : n.replies.head? = some (.answer r))
    (hJ : Json.parse? r.body = some (.record J.entries))
    (hget : (s.client (.getSettings g.emailId) n).1 = .ok current) :
    ∃ a given wanted, s.settingsAddress g.emailId = .ok a ∧ current.toData = .record given ∧
      Settings.Carries (Settings.textUnder J) J given ∧
      Settings.Carries (wantedText J g.settings) J wanted ∧
      (wanted = given ↔ wantedText J g.settings = Settings.textUnder J) ∧
      ((updateSettings mode g).run s.client n).state.sent = n.sent ++ s.noted .get a none ::
        if wanted = given then [] else [s.noted .patch a (some (.record wanted))] := by
  obtain ⟨a, r', rest, haddress, haccepts, hreplies, hread, hclient⟩ :=
    Rest.Service.getSettings_eq_ok hget
  obtain rfl : r' = r := by simpa [hreplies] using hreply
  obtain ⟨t, ht, hread⟩ := Option.bind_eq_some_iff.mp hread
  have hdata : t.data? = some (.record J.entries) := by
    rw [Json.parse?, ht, Option.bind_eq_bind, Option.bind_some] at hJ
    obtain ⟨-, -, hdata⟩ := Option.bind_eq_some_iff.mp hJ
    exact hdata
  obtain ⟨given, wanted, hgiven, hsent, hcarries, hcarries', hsame, htexts⟩ :=
    exists_fields hread hdata g.settings
  refine ⟨a, given, wanted, haddress, hgiven, hcarries, hcarries', hsame.trans htexts, ?_⟩
  rw [state_run_updateSettings hconfirm hclient]
  by_cases heq : (current.desired g.settings).1 = current
  · rw [if_pos heq, if_pos (hsame.mpr heq)]
  · -- Whether a request can be sent depends on its address and the token only.
    have hpatch : Rest.Network.accepts
        { n with replies := rest, sent := n.sent ++ [s.noted .get a none] }
        ⟨.patch, a, "Bearer " ++ s.token, some (current.desired g.settings).1.toData⟩ = true :=
      haccepts
    rw [if_neg heq, if_neg (mt hsame.mp heq), Rest.Service.sent_patchSettings haddress hpatch,
      hsent, List.append_assoc]
    rfl

/-! ## A sample -/

/-- Settings as a service sends them: one of them is null, and a field is not managed. -/
def sampleBody : String :=
  "\x7b\"whoCanJoin\": null, \"tags\": [true, \"a\"]\x7d"

/-- What such a text says, field by field. -/
def sampleMembers : List (Option String × Json.Tree) :=
  [(some "whoCanJoin", .null), (some "tags", .list [.bool true, .text (some "a")])]

def sampleObject : Dictionary Data :=
  .ofList [("whoCanJoin", .null), ("tags", .list [.bool true, .text "a"])]

def sampleChoices : GroupSpec :=
  { GroupSpec.blank with
    emailId := "team@x.io", settings := .ofList [("WhoCanJoin", "ANYONE_CAN_JOIN")] }

def sampleService : Rest.Service :=
  .standard "token" "my_customer"

def sampleNetwork : Rest.Network :=
  .ofReplies [.answer ⟨200, sampleBody⟩]

theorem parse?_sampleBody : Json.Tree.parse? sampleBody = some (.record sampleMembers) := by
  cbv

theorem depth_sampleMembers : (Json.Tree.record sampleMembers).depth ≤ Json.depthLimit := by
  simp [sampleMembers, Json.Tree.depth, Json.depthLimit]

/-- The settings of the sample are received. -/
theorem exists_sampleSettings :
    ∃ current, (sampleService.client (.getSettings sampleChoices.emailId) sampleNetwork).1 =
      .ok current := by
  obtain ⟨a, haddress, haccepts⟩ : ∃ a,
      sampleService.settingsAddress sampleChoices.emailId = .ok a ∧
        sampleNetwork.accepts ⟨.get, a, "Bearer " ++ sampleService.token, none⟩ = true :=
    ⟨_, rfl, by decide +kernel⟩
  have hread : ((Json.Tree.parse? sampleBody).bind Rest.Service.readSettings).isSome = true := by
    rw [parse?_sampleBody, Option.bind_some, Rest.Service.readSettings, guard,
      if_pos depth_sampleMembers]
    decide +kernel
  obtain ⟨current, hcurrent⟩ := Option.isSome_iff_exists.mp hread
  refine ⟨current, ?_⟩
  rw [Rest.Service.client, haddress]
  exact Rest.Service.fetch_of_answer haccepts rfl rfl hcurrent

/-- The patch of the sample is sent. -/
theorem sample_patches :
    ∃ a wanted,
      Settings.Carries (wantedText sampleObject sampleChoices.settings) sampleObject wanted ∧
      ((updateSettings ⟨true, Rest.Service.isMissing⟩ sampleChoices).run sampleService.client
        sampleNetwork).state.sent =
      [sampleService.noted .get a none, sampleService.noted .patch a (some (.record wanted))] := by
  have hJ : Json.parse? sampleBody = some (.record sampleObject.entries) := by
    rw [Json.parse?, parse?_sampleBody, Option.bind_eq_bind, Option.bind_some, guard,
      if_pos depth_sampleMembers]
    decide +kernel
  obtain ⟨current, hget⟩ := exists_sampleSettings
  obtain ⟨a, given, wanted, -, -, -, hwanted, htexts, hsent⟩ :=
    @updateSettings_patches sampleService ⟨true, Rest.Service.isMissing⟩ rfl sampleChoices
      sampleNetwork ⟨200, sampleBody⟩ sampleObject current rfl hJ hget
  have hchosen : wantedText sampleObject sampleChoices.settings .whoCanJoin ≠
      Settings.textUnder sampleObject .whoCanJoin := by
    decide +kernel
  have hne : wanted ≠ given := fun heq => hchosen (congrFun (htexts.mp heq) .whoCanJoin)
  refine ⟨a, wanted, hwanted, ?_⟩
  rw [hsent, if_neg hne]
  rfl

end Reconcile

end GroupKeeper
