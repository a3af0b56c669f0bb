import Mathlib.Data.List.Lex
import Mathlib.Data.List.Sort
import Mathlib.Data.String.Basic
import GroupKeeper.Config
import GroupKeeper.Proofs.Files.Search

/-! Rosters in directories. A directory is searched for files with rosters, which are read in the
order of their paths, whatever the order in which the directories list their entries; and either all
rosters are joined, or there is the failure of the first file that has none. -/

namespace GroupKeeper

theorem FileTree.text_ofText (s : String) : (ofText s).text = .ok s := by
  have hbytes : String.fromUTF8? s.toUTF8 = some s := Rest.fromUTF8?_bytesOf s
  rw [ofText, text, hbytes]

namespace Roster

open FileTree

variable {fs : Files} {path : String} {t u : FileTree} {names : List String}

/-! ## Files with rosters -/

/-- A file with the name that files with rosters have. -/
def IsRosterFile (t : FileTree) (names : List String) : Prop :=
  names.getLast? = some rosterFileName ∧ ∃ content, t.at? names = some (.file content)

/-- The roster in what is read from a path. -/
def ofRead (path : String) : Except FileProblem String → Except Failure Roster
  | .error p => .error (Files.failure "error reading groups config from " path p)
  | .ok text => match ofText? text with
    | none =>
      .error (.during ("error parsing groups config " ++ path) (.because (.outside .format)))
    | some r => .ok r

/-- The roster at a place with a path. -/
def ofPlace (path : String) (t : FileTree) : Except Failure Roster :=
  ofRead path (if isShort path then t.text else .error .nameTooLong)

theorem loadFile_eq_ofRead (fs : Files) (path : String) :
    loadFile fs path = ofRead path (fs.read path) := by
  rw [loadFile]
  cases fs.read path with
  | error p => rfl
  | ok text =>
      unfold ofRead
      cases ofText? text <;> rfl

theorem ofPlace_eq_of_content? (path : String) (h : t.content? = u.content?) :
    ofPlace path t = ofPlace path u := by
  have htext : t.text = u.text := by
    cases t <;> cases u <;> simp_all [content?, text]
  rw [ofPlace, ofPlace, htext]

theorem loadFile_eq_ofPlace (hsound : t.Sound) (hfind : fs.find path = .ok t)
    (hat : t.at? names = some u) :
    loadFile fs (names.foldl Path.join path) = ofPlace (names.foldl Path.join path) u := by
  have hread : fs.read (names.foldl Path.join path) =
      if isShort (names.foldl Path.join path) then u.text else .error .nameTooLong := by
    rw [Files.read, Files.find_place hsound hfind hat]
    split <;> rfl
  rw [loadFile_eq_ofRead, hread, ofPlace]

/-! ## Joining -/

/-- What comes of several rosters: all of them joined, or the first failure. -/
structure Joined (results : List (Except Failure Roster)) (outcome : Except Failure Roster) :
    Prop where
  all : ∀ rosters : List Roster, results = rosters.map .ok →
    outcome = .ok ⟨rosters.flatMap (·.groups)⟩
  first : ∀ (rosters : List Roster) (f : Failure) (rest : List (Except Failure Roster)),
    results = rosters.map .ok ++ .error f :: rest → outcome = .error f

theorem exists_first_or_all (results : List (Except Failure Roster)) :
    (∃ rosters : List Roster, results = rosters.map .ok) ∨
      ∃ (rosters : List Roster) (f : Failure) (rest : List (Except Failure Roster)),
        results = rosters.map .ok ++ .error f :: rest := by
  induction results with
  | nil => exact .inl ⟨[], rfl⟩
  | cons result results ih =>
      cases result with
      | error f => exact .inr ⟨[], f, results, rfl⟩
      | ok r =>
          rcases ih with ⟨rosters, rfl⟩ | ⟨rosters, f, rest, rfl⟩
          · exact .inl ⟨r :: rosters, rfl⟩
          · exact .inr ⟨r :: rosters, f, rest, rfl⟩

theorem Joined.unique {results : List (Except Failure Roster)}
    {outcome outcome' : Except Failure Roster} (h : Joined results outcome)
    (h' : Joined results outcome') : outcome = outcome' := by
  rcases exists_first_or_all results with ⟨rosters, hall⟩ | ⟨rosters, f, rest, hfirst⟩
  · rw [h.all rosters hall, h'.all rosters hall]
  · rw [h.first rosters f rest hfirst, h'.first rosters f rest hfirst]

theorem joined_loadFiles (fs : Files) (paths : List String) :
    Joined (paths.map (loadFile fs)) (loadFiles fs paths) := by
  induction paths with
  | nil =>
      refine ⟨fun rosters h => ?_, fun rosters f rest h => ?_⟩
      · obtain rfl := List.map_eq_nil_iff.mp h.symm
        rfl
      · simp at h
  | cons path paths ih =>
      refine ⟨fun rosters h => ?_, fun rosters f rest h => ?_⟩
      · cases rosters with
        | nil => simp at h
        | cons r rosters =>
            obtain ⟨hfirst, hrest⟩ := List.cons.inj h
            rw [loadFiles, hfirst, ih.all rosters hrest]
            rfl
      · cases rosters with
        | nil =>
            obtain ⟨hfirst, -⟩ := List.cons.inj h
            rw [loadFiles, hfirst]
            rfl
        | cons r rosters =>
            obtain ⟨hfirst, hrest⟩ := List.cons.inj h
            rw [loadFiles, hfirst, ih.first rosters f rest hrest]
            rfl

/-! ## The order of paths -/

theorem mem_filesIn (hsound : t.Sound) (hfind : fs.find path = .ok t) :
    names ∈ filesIn path t ↔ IsFound rosterFileName path t names := by
  obtain ⟨hplain, hshort⟩ := Files.plain_of_find hfind
  rw [filesIn, List.mem_mergeSort, mem_findNamed hsound hplain hshort]

theorem pairwise_filesIn (hsound : t.Sound) (path : String) :
    (filesIn path t).Pairwise (· < ·) := by
  have hle : (fun a b : List String => !b.lex a) = fun a b => decide (a ≤ b) := by
    funext a b
    rw [Bool.eq_iff_iff, Bool.not_eq_true', decide_eq_true_eq, ← not_lt,
      ← List.lex_eq_true_iff_lt, Bool.not_eq_true]
  have hnodup : (filesIn path t).Nodup :=
    (List.mergeSort_perm _ _).nodup_iff.mpr (nodup_findNamed hsound)
  have hsorted : (filesIn path t).Pairwise (· ≤ ·) := by
    rw [filesIn, hle]
    exact List.pairwise_mergeSort' (· ≤ ·) _
  exact (hsorted.and hnodup).imp fun h => lt_of_le_of_ne h.1 h.2

/-! ## Directories -/

/-- Every file with a roster is in a directory with a path that is short enough, and so is every
directory that has the name of such a file, if the one that it is in is. -/
structure InReach (path : String) (t : FileTree) : Prop where
  files : ∀ names, IsRosterFile t names → isShort (names.dropLast.foldl Path.join path) = true
  directories : ∀ names entries, names.getLast? = some rosterFileName →
    t.at? names = some (.directory entries) →
    isShort (names.dropLast.foldl Path.join path) = true →
    isShort (names.foldl Path.join path) = true

/-- Just the files with rosters are found if they are in reach, and only then. -/
theorem isFound_iff_isRosterFile (path : String) (t : FileTree) :
    (∀ names, IsFound rosterFileName path t names ↔ IsRosterFile t names) ↔ InReach path t := by
  refine ⟨fun h => ⟨fun names hfile => ((h names).mpr hfile).reached, ?_⟩, fun h names => ?_⟩
  · intro names entries hnamed hat hreached
    by_contra hlong
    have hfound : IsFound rosterFileName path t names :=
      ⟨hnamed, hreached, _, hat, by simpa [isDirectory] using hlong⟩
    obtain ⟨-, content, hfile⟩ := (h names).mp hfound
    simp [hat] at hfile
  · constructor
    · rintro ⟨hnamed, hreached, u, hat, hleaf⟩
      refine ⟨hnamed, ?_⟩
      cases u with
      | file content => exact ⟨content, hat⟩
      | directory entries =>
          have hshort := h.directories names entries hnamed hat hreached
          simp [isDirectory, hshort] at hleaf
    · rintro ⟨hnamed, content, hat⟩
      exact ⟨hnamed, h.files names ⟨hnamed, content, hat⟩, _, hat, rfl⟩

/-- How the rosters in a directory are loaded: from the places that are found, each once and in the
order of their paths, name by name. -/
structure Loads (path : String) (t : FileTree) (found : List (List String))
    (results : List (Except Failure Roster)) (outcome : Except Failure Roster) : Prop where
  sorted : found.Pairwise (· < ·)
  places : ∀ names, names ∈ found ↔ IsFound rosterFileName path t names
  exact : (∀ names, names ∈ found ↔ IsRosterFile t names) ↔ InReach path t
  read : results.map some =
    found.map fun names => (t.at? names).map (ofPlace (names.foldl Path.join path))
  joined : Joined results outcome

/-- Whatever the order of entries, the outcome is the same. -/
theorem Loads.unique {found found' : List (List String)}
    {results results' : List (Except Failure Roster)} {outcome outcome' : Except Failure Roster}
    (h : Loads path t found results outcome) (h' : Loads path u found' results' outcome')
    (hsame : SamePlaces t u) : outcome = outcome' := by
  obtain rfl : found = found' := by
    refine h.sorted.eq_of_mem_iff h'.sorted fun names => ?_
    rw [h.places, h'.places]
    exact ⟨fun hfound => hfound.of_samePlaces hsame,
      fun hfound => hfound.of_samePlaces fun names => (hsame names).symm⟩
  obtain rfl : results = results' := by
    refine List.map_injective_iff.mpr (Option.some_injective _) ?_
    rw [h.read, h'.read]
    refine List.map_congr_left fun names _ => ?_
    have hplace := hsame names
    cases ht : t.at? names with
    | none =>
        rw [ht] at hplace
        rw [Option.map_eq_none_iff.mp hplace.symm]
    | some v =>
        rw [ht] at hplace
        obtain ⟨w, hu, hcontent⟩ := Option.map_eq_some_iff.mp hplace.symm
        rw [hu, Option.map_some, Option.map_some, ofPlace_eq_of_content? _ hcontent]
  exact h.joined.unique h'.joined

theorem exists_loads (hsound : t.Sound) (hfind : fs.find path = .ok t)
    (hdirectory : t.isDirectory = true) :
    ∃ found results, Loads path t found results (load fs path) := by
  have hplaces : ∀ names, names ∈ filesIn path t ↔ IsFound rosterFileName path t names :=
    fun names => mem_filesIn hsound hfind
  have hload : load fs path =
      loadFiles fs ((filesIn path t).map fun names => names.foldl Path.join path) := by
    cases t with
    | file content => simp [isDirectory] at hdirectory
    | directory entries => rw [load, hfind]
  refine ⟨filesIn path t, _, pairwise_filesIn hsound path, hplaces, ?_, ?_,
    hload ▸ joined_loadFiles fs _⟩
  · simp only [hplaces]
    exact isFound_iff_isRosterFile path t
  · rw [List.map_map, List.map_map]
    refine List.map_congr_left fun names hmem => ?_
    obtain ⟨u, hat, -⟩ := ((hplaces names).mp hmem).leaf
    rw [hat, Option.map_some, ← loadFile_eq_ofPlace hsound hfind hat]
    rfl

/-- The rosters in a directory are loaded from the files that are found in it. In what order its
directories list their entries makes no difference. -/
theorem load_directory (hsound : t.Sound) (hfind : fs.find path = .ok t)
    (hdirectory : t.isDirectory = true) :
    (∃ found results, Loads path t found results (load fs path)) ∧
      ∀ fs' t', Reordered t t' → fs'.find path = .ok t' → load fs' path = load fs path := by
  obtain ⟨found, results, hloads⟩ := exists_loads hsound hfind hdirectory
  refine ⟨⟨found, results, hloads⟩, fun fs' t' hreordered hfind' => ?_⟩
  obtain ⟨hsound', hsame⟩ := hreordered.sound_and_samePlaces hsound
  have hdirectory' : t'.isDirectory = true := by
    rw [isDirectory_eq, ← Option.some.inj (hsame []), ← isDirectory_eq, hdirectory]
  obtain ⟨found', results', hloads'⟩ := exists_loads hsound' hfind' hdirectory'
  exact (hloads.unique hloads' hsame).symm

/-! ## A sample -/

/-- A text with a roster of one group. -/
def sampleText (email : String) : String :=
  "groups:\n- email-id: " ++ email ++ "\n"

def sampleRoster (email : String) : Roster :=
  ⟨[{ GroupSpec.blank with emailId := email }]⟩

theorem ofText?_sampleText : ∀ email ∈ ["a@x.io", "b@x.io", "c@x.io"],
    ofText? (sampleText email) = some (sampleRoster email) := by
  decide +kernel

/-- A directory has the name of a file with a roster, and nothing is listed in its order. -/
def sampleTree : FileTree :=
  .directory [
    (rosterFileName, .directory [(rosterFileName, .ofText (sampleText "c@x.io"))]),
    ("b", .directory [(rosterFileName, .ofText (sampleText "b@x.io"))]),
    ("a", .directory [
      ("other.yaml", .ofText "not: groups\n"),
      ("nested", .directory [(rosterFileName, .ofText (sampleText "a@x.io"))])])]

theorem sound_ofText (text : String) : (FileTree.ofText text).Sound :=
  .file _

theorem sound_sampleTree : sampleTree.Sound := by
  refine .directory (by decide) (by decide) ?_
  simp only [List.forall_mem_cons]
  refine ⟨?_, ?_, ?_, by simp⟩
  · exact .directory (by decide) (by decide) (by simp [sound_ofText])
  · exact .directory (by decide) (by decide) (by simp [sound_ofText])
  · refine .directory (by decide) (by decide) ?_
    simp only [List.forall_mem_cons]
    refine ⟨sound_ofText _, ?_, by simp⟩
    exact .directory (by decide) (by decide) (by simp [sound_ofText])

theorem findNamed_sampleTree : sampleTree.findNamed rosterFileName "." =
    [[rosterFileName, rosterFileName], ["b", rosterFileName], ["a", "nested", rosterFileName]] := by
  decide +kernel

theorem find_sampleTree : (⟨sampleTree, []⟩ : Files).find "." = .ok sampleTree := by
  rfl

theorem ofPlace_sampleText {email : String} (hshort : isShort path = true)
    (hemail : email ∈ ["a@x.io", "b@x.io", "c@x.io"]) :
    ofPlace path (.ofText (sampleText email)) = .ok (sampleRoster email) := by
  rw [ofPlace, if_pos hshort, text_ofText, ofRead, ofText?_sampleText email hemail]

/-- Of the sample the rosters are joined in the order of the paths. -/
theorem sampleTree_loads :
    load ⟨sampleTree, []⟩ "." = .ok ⟨["a@x.io", "b@x.io", "c@x.io"].flatMap fun email =>
      (sampleRoster email).groups⟩ := by
  obtain ⟨⟨found, results, h⟩, -⟩ := load_directory sound_sampleTree find_sampleTree rfl
  have hfound : found = [["a", "nested", rosterFileName], ["b", rosterFileName],
      [rosterFileName, rosterFileName]] := by
    refine h.sorted.eq_of_mem_iff (by decide +kernel) fun names => ?_
    obtain ⟨hplain, hshort⟩ := Files.plain_of_find find_sampleTree
    rw [h.places, ← mem_findNamed sound_sampleTree hplain hshort, findNamed_sampleTree]
    exact (List.reverse_perm _).mem_iff.symm
  have hplace : ∀ names email, sampleTree.at? names = some (.ofText (sampleText email)) →
      isShort (names.foldl Path.join ".") = true → email ∈ ["a@x.io", "b@x.io", "c@x.io"] →
      (sampleTree.at? names).map (ofPlace (names.foldl Path.join ".")) =
        some (.ok (sampleRoster email)) := by
    intro names email hat hshort hemail
    rw [hat, Option.map_some, ofPlace_sampleText hshort hemail]
  have hresults : results = (["a@x.io", "b@x.io", "c@x.io"].map sampleRoster).map .ok := by
    refine List.map_injective_iff.mpr (Option.some_injective _) ?_
    rw [h.read, hfound, List.map_cons, List.map_cons, List.map_singleton,
      hplace _ "a@x.io" rfl (by decide) (by decide), hplace _ "b@x.io" rfl (by decide) (by decide),
      hplace _ "c@x.io" rfl (by decide) (by decide)]
    rfl
  exact h.joined.all _ hresults

/-! ## Directories out of reach -/

/-- A path that stays where it is, step by step. -/
def winding : Nat → String
  | 0 => ""
  | k + 1 => "./" ++ winding k

/-- The name of a directory that is passed over. -/
def archiveName : String := "archive-of-old-groups"

def archiveTree : FileTree :=
  .directory [(archiveName, .directory [(rosterFileName, .ofText (sampleText "a@x.io"))])]

theorem names_winding (k : Nat) : Path.names (winding k) = List.replicate k "." ++ [""] := by
  induction k with
  | zero => rfl
  | succ k ih =>
      have hstep : winding (k + 1) = "." ++ "/" ++ winding k := rfl
      rw [hstep, Path.names_append, ih]
      rfl

theorem utf8ByteSize_winding (k : Nat) : (winding k).utf8ByteSize = 2 * k := by
  induction k with
  | zero => rfl
  | succ k ih =>
      have hstep : "./".utf8ByteSize = 2 := rfl
      rw [winding, String.utf8ByteSize_append, ih, hstep]
      omega

theorem plain_winding (k : Nat) : Files.Plain (winding (k + 1)) := by
  refine ⟨by simp [winding], ?_⟩
  induction k with
  | zero => decide
  | succ k ih =>
      rw [winding, String.toList_append, List.mem_append, not_or]
      exact ⟨by decide, ih⟩

/-- Such a path leads to where it begins. -/
theorem find_winding {k : Nat} (hshort : isShort (winding (k + 1)) = true)
    (entries : List (String × FileTree)) :
    (⟨.directory entries, []⟩ : Files).find (winding (k + 1)) = .ok (.directory entries) := by
  have hfollow : ∀ m, Files.follow [] (.directory entries) (List.replicate m "." ++ [""]) =
      .ok (.directory entries) := by
    intro m
    induction m with
    | zero => rfl
    | succ m ih => exact ih
  have hrelative : Path.isAbsolute (winding (k + 1)) = false := by
    rw [winding, Path.isAbsolute_append (by decide)]
    decide
  rw [Files.find_of_plain (plain_winding k), if_pos hshort, hrelative, names_winding]
  exact hfollow (k + 1)

/-- A directory whose path is too long is passed over without a word. It has a file with a roster of
a group, but the roster that is loaded has none. -/
theorem archive_passed_over :
    archiveTree.Sound ∧ (⟨archiveTree, []⟩ : Files).find (winding 2040) = .ok archiveTree ∧
      IsRosterFile archiveTree [archiveName, rosterFileName] ∧
      archiveTree.at? [archiveName, rosterFileName] = some (.ofText (sampleText "a@x.io")) ∧
      (ofText? (sampleText "a@x.io")).map (·.groups.map (·.emailId)) = some ["a@x.io"] ∧
      load ⟨archiveTree, []⟩ (winding 2040) = .ok .empty := by
  have hfind : (⟨archiveTree, []⟩ : Files).find (winding 2040) = .ok archiveTree :=
    find_winding (by simp [isShort, utf8ByteSize_winding, pathLimit]) _
  have hvalid : ValidName archiveName := by decide
  have hlong : isShort (Path.join (winding 2040) archiveName) = false := by
    have hplain : Files.Plain (winding 2040) := plain_winding 2039
    have hsize := Files.utf8ByteSize_join hplain.nonempty hvalid
    have hname : archiveName.utf8ByteSize = 21 := rfl
    rw [utf8ByteSize_winding, hname] at hsize
    rw [isShort, decide_eq_false_iff_not, pathLimit]
    omega
  refine ⟨?_, hfind, ⟨rfl, _, rfl⟩, rfl, ?_, ?_⟩
  · refine .directory (by decide) (by decide) ?_
    rw [List.forall_mem_singleton]
    exact .directory (by decide) (by decide) (by simp [sound_ofText])
  · rw [ofText?_sampleText "a@x.io" (by decide)]
    rfl
  · have hnone : filesIn (winding 2040) archiveTree = [] := by
      have hname : archiveName ≠ rosterFileName := by decide
      rw [filesIn, archiveTree, findNamed, findInEntries_eq, List.flatMap_singleton, findAt, hlong,
        Bool.and_false, if_neg Bool.false_ne_true, if_neg hname, List.mergeSort_nil]
    rw [load, hfind]
    change loadFiles _ ((filesIn (winding 2040) archiveTree).map _) = _
    rw [hnone]
    rfl

end Roster

end GroupKeeper
