import GroupKeeper.Proofs.Files.Rosters
import GroupKeeper.Proofs.RoundTrip.Documents
import GroupKeeper.Proofs.RoundTrip.Rosters
import GroupKeeper.Proofs.RoundTrip.Settings

/-! What is written is read back. For data this holds without more; a roster that was written to a
file is loaded again if the text of its data is read as the same data. -/

namespace GroupKeeper

/-! ## Rosters in files -/

namespace Roster

variable {c : Roster} {fs : Files} {path : String}

theorem ofText?_print (h : Yaml.ReadsBack c.toData) : ofText? (Yaml.print c.toData) = some c := by
  obtain ⟨d, hd, hroot⟩ := Option.bind_eq_some_iff.mp h
  have hread : d.read? (read d.reader) = some c := by
    rw [Yaml.Document.read?, read_of_shows (d.shows_of_data? d.root hroot)]
    rfl
  rw [ofText?, hd]
  exact hread

theorem load_print (h : Yaml.ReadsBack c.toData)
    (hfind : fs.find path = .ok (.ofText (Yaml.print c.toData))) : load fs path = .ok c := by
  have hload : load fs path = loadFile fs path := by
    rw [load, hfind]
    rfl
  have hread : fs.read path = .ok (Yaml.print c.toData) := by
    rw [Files.read, hfind]
    exact FileTree.text_ofText _
  rw [hload, loadFile_eq_ofRead, hread, ofRead, ofText?_print h]

end Roster

/-! ## Everything that is written -/

/-- Everything is read back as it was written, though blank texts, lists and records and unset
settings are left out, and no record that is written gives one name to two fields. Of settings this
holds if they carry nothing along under a managed field, as all settings do that were read. A roster
that was written to a file is loaded again. -/
theorem reads_what_is_written :
    (∀ c : Roster, Data.RoundTrips (Roster.read Data.reader) [] c.toData c) ∧
    (∀ g : GroupSpec, Data.RoundTrips (GroupSpec.read Data.reader) ["email-id"] g.toData g) ∧
    (∀ g : Group, Data.RoundTrips (Group.read Data.reader) ["email"] g.toData g) ∧
    (∀ m : Member, Data.RoundTrips (Member.read Data.reader) ["email"] m.toData m) ∧
    (∀ s : Settings, s.Apart → s.RoundTrips) ∧
    (∀ s : Settings, s.Sound → s.toData.Distinct) ∧
    (∀ (x : Data) (s : Settings), Settings.ofData? x = some s → s.Apart) ∧
    (∀ (t : Json.Tree) (s : Settings), Rest.Service.readSettings t = some s → s.Sound) ∧
    ∀ (c : Roster) (fs : Files) (path : String), Yaml.ReadsBack c.toData →
      fs.find path = .ok (.ofText (Yaml.print c.toData)) → Roster.load fs path = .ok c := by
  refine ⟨Roster.roundTrips, GroupSpec.roundTrips, Group.roundTrips, Member.roundTrips,
    fun s => Settings.roundTrips, fun s => Settings.distinct_toData,
    fun x s => Settings.apart_of_ofData?, fun t s => Rest.Service.sound_of_readSettings, ?_⟩
  intro c fs path hreads hfind
  exact Roster.load_print hreads hfind

/-! ## A sample -/

/-- A roster with texts that need quotes, or several lines. -/
def Roster.sampleWritten : Roster := ⟨[
  { GroupSpec.blank with
    emailId := "a@x.io"
    name := "true"
    description := "two\nlines"
    settings := .ofList [("WhoCanJoin", "INVITED_CAN_JOIN"), ("AllowWebPosting", "")]
    owners := ["o@x.io", ""] },
  GroupSpec.blank]⟩

def Roster.sampleWrittenFiles : Files :=
  ⟨.directory [(rosterFileName, .ofText (Yaml.print sampleWritten.toData))], []⟩

/-- The fields of settings as a service sends them. One that is not managed stands twice. -/
def Settings.sampleSent : List (Option String × Json.Tree) := [
  (some "kind", .null), (some "whoCanJoin", .text (some "")), (some "allowWebPosting", .null),
  (some "kind", .record [(some "id", .bool true)])]

def Settings.sampleReceived : Settings :=
  ⟨(unset.put .whoCanJoin "").managed, .ofList [("kind", .record [("id", .bool true)])]⟩

theorem Settings.readSettings_sampleSent :
    Rest.Service.readSettings (.record sampleSent) = some sampleReceived := by
  have hdepth : (Json.Tree.record sampleSent).depth ≤ Json.depthLimit := by
    simp [sampleSent, Json.Tree.depth, Json.depthLimit]
  rw [Rest.Service.readSettings, guard, if_pos hdepth]
  decide +kernel

theorem Yaml.readsBack_sampleWritten : ReadsBack Roster.sampleWritten.toData := by
  decide +kernel

theorem samples_read_back :
    Settings.sampleReceived.Sound ∧ Settings.sampleReceived.RoundTrips ∧
      Settings.sampleReceived.toData.Distinct ∧
      Roster.load Roster.sampleWrittenFiles rosterFileName = .ok Roster.sampleWritten := by
  obtain ⟨-, -, -, -, hsettings, hdistinct, -, hsound, hload⟩ := reads_what_is_written
  have hreceived := hsound _ _ Settings.readSettings_sampleSent
  exact ⟨hreceived, hsettings _ hreceived.apart, hdistinct _ hreceived,
    hload _ _ _ Yaml.readsBack_sampleWritten rfl⟩

end GroupKeeper
