import GroupKeeper.Files.Tree
import GroupKeeper.Proofs.Lists
import GroupKeeper.Proofs.Rest.Escapes

/-! Places in a tree of files, given by the names that lead there. In a sound tree the path that is
made of a path to a directory and such names leads to the place, if it is short enough to lead
anywhere. -/

namespace GroupKeeper

/-! ## Sound trees -/

namespace FileTree

/-- A name that a file can have. -/
structure ValidName (n : String) : Prop where
  nonempty : n ≠ ""
  noSlash : '/' ∉ n.toList
  noNul : '\x00' ∉ n.toList
  noDots : n ≠ "." ∧ n ≠ ".."
  short : n.utf8ByteSize ≤ nameLimit

instance (n : String) : Decidable (ValidName n) :=
  decidable_of_iff (n ≠ "" ∧ '/' ∉ n.toList ∧ '\x00' ∉ n.toList ∧ (n ≠ "." ∧ n ≠ "..") ∧
    n.utf8ByteSize ≤ nameLimit)
    ⟨fun ⟨h₁, h₂, h₃, h₄, h₅⟩ => ⟨h₁, h₂, h₃, h₄, h₅⟩,
      fun ⟨h₁, h₂, h₃, h₄, h₅⟩ => ⟨h₁, h₂, h₃, h₄, h₅⟩⟩

/-- A tree whose names can be names of files, no two of them in one directory the same. -/
inductive Sound : FileTree → Prop
  | file (content : ByteArray) : Sound (.file content)
  | directory {entries : List (String × FileTree)} (distinct : (entries.map (·.1)).Nodup)
      (valid : ∀ e ∈ entries, ValidName e.1) (sound : ∀ e ∈ entries, Sound e.2) :
      Sound (.directory entries)

/-- What names lead to. -/
def at? (t : FileTree) : List String → Option FileTree
  | [] => some t
  | name :: names => match t.entry? name with
    | .ok inner => inner.at? names
    | .error _ => none

variable {t u : FileTree} {n : String} {names : List String} {entries : List (String × FileTree)}

theorem entry?_directory (n : String) (entries : List (String × FileTree)) :
    entry? n (directory entries) =
      if nameLimit < n.utf8ByteSize then .error .nameTooLong
      else match entries.find? (·.1 == n) with
        | some (_, t) => .ok t
        | none => .error .notFound :=
  rfl

/-- In a sound directory entries are told apart by their names. -/
theorem entry?_eq_ok (hsound : (directory entries).Sound) :
    entry? n (directory entries) = .ok t ↔ (n, t) ∈ entries := by
  cases hsound with
  | directory distinct valid sound =>
      refine ⟨fun h => ?_, fun h => ?_⟩
      · rw [entry?_directory] at h
        split at h
        · simp at h
        · split at h
          · next m t' hfind =>
            obtain rfl := Except.ok.inj h
            have hname : m = n := by simpa using List.find?_some hfind
            exact hname ▸ List.mem_of_find?_eq_some hfind
          · simp at h
      · have hshort : ¬nameLimit < n.utf8ByteSize := Nat.not_lt.mpr (valid _ h).short
        have hfind : entries.find? (·.1 == n) = some (n, t) := find?_of_nodup_map distinct h
        rw [entry?_directory, if_neg hshort, hfind]

theorem exists_entry_of_at? (hsound : t.Sound) (h : t.at? (n :: names) = some u) :
    ∃ entries inner, t = directory entries ∧ (n, inner) ∈ entries ∧ inner.at? names = some u := by
  rw [at?] at h
  split at h
  · next inner hentry =>
    cases t with
    | file content => nomatch hentry
    | directory entries => exact ⟨entries, inner, rfl, (entry?_eq_ok hsound).mp hentry, h⟩
  · simp at h

/-- Only through names that files can have something is reached in a sound tree. -/
theorem Sound.valid_of_at? (hsound : t.Sound) (h : t.at? names = some u) :
    ∀ n ∈ names, ValidName n := by
  induction names generalizing t with
  | nil => simp
  | cons n names ih =>
      obtain ⟨entries, inner, rfl, hmem, hinner⟩ := exists_entry_of_at? hsound h
      cases hsound with
      | directory distinct valid sound =>
          exact List.forall_mem_cons.mpr ⟨valid _ hmem, ih (sound _ hmem) hinner⟩

/-! ## Orders of entries -/

/-- Trees that differ in nothing but the order in which directories list their entries. Inside an
entry it is enough to say this of the first one. -/
inductive Reordered : FileTree → FileTree → Prop
  | refl (t : FileTree) : Reordered t t
  | trans {t u v : FileTree} (h : Reordered t u) (h' : Reordered u v) : Reordered t v
  | listed {entries entries' : List (String × FileTree)} (h : entries.Perm entries') :
      Reordered (directory entries) (directory entries')
  | inside {t u : FileTree} (n : String) (more : List (String × FileTree)) (h : Reordered t u) :
      Reordered (directory ((n, t) :: more)) (directory ((n, u) :: more))

/-- The bytes of a file. -/
def content? : FileTree → Option ByteArray
  | file content => some content
  | directory _ => none

/-- Trees that have the same files and the same directories at the same places. -/
def SamePlaces (t u : FileTree) : Prop :=
  ∀ names, (t.at? names).map content? = (u.at? names).map content?

theorem samePlaces_directory {entries' : List (String × FileTree)}
    (hsound : (directory entries).Sound) (hsound' : (directory entries').Sound)
    (h : ∀ n t, (n, t) ∈ entries → ∃ u, (n, u) ∈ entries' ∧ SamePlaces t u)
    (h' : ∀ n u, (n, u) ∈ entries' → ∃ t, (n, t) ∈ entries) :
    SamePlaces (directory entries) (directory entries') := by
  intro names
  cases names with
  | nil => rfl
  | cons n names =>
      rw [at?, at?]
      cases hentry : entry? n (directory entries) with
      | ok t =>
          obtain ⟨u, hmem, hsame⟩ := h n t ((entry?_eq_ok hsound).mp hentry)
          rw [(entry?_eq_ok hsound').mpr hmem]
          exact hsame names
      | error p =>
          cases hentry' : entry? n (directory entries') with
          | ok u =>
              obtain ⟨t, hmem⟩ := h' n u ((entry?_eq_ok hsound').mp hentry')
              simp [(entry?_eq_ok hsound).mpr hmem] at hentry
          | error p' => rfl

theorem Reordered.sound_and_samePlaces (h : Reordered t u) (hsound : t.Sound) :
    u.Sound ∧ SamePlaces t u := by
  induction h with
  | refl t => exact ⟨hsound, fun _ => rfl⟩
  | trans h h' ih ih' =>
      obtain ⟨hsound', hsame⟩ := ih hsound
      obtain ⟨hsound'', hsame'⟩ := ih' hsound'
      exact ⟨hsound'', fun names => (hsame names).trans (hsame' names)⟩
  | @listed entries entries' h =>
      have hsound' : (directory entries').Sound := by
        cases hsound with
        | directory distinct valid sound =>
            exact .directory ((h.map _).nodup_iff.mp distinct)
              (fun e he => valid e (h.mem_iff.mpr he)) (fun e he => sound e (h.mem_iff.mpr he))
      refine ⟨hsound', samePlaces_directory hsound hsound' (fun n t hmem => ?_) fun n t hmem => ?_⟩
      · exact ⟨t, h.mem_iff.mp hmem, fun _ => rfl⟩
      · exact ⟨t, h.mem_iff.mpr hmem⟩
  | @inside t u n more h ih =>
      have hsound' := hsound
      cases hsound' with
      | directory distinct valid sound =>
          rw [List.forall_mem_cons] at valid sound
          obtain ⟨hu, hsame⟩ := ih sound.1
          have hsound' : (directory ((n, u) :: more)).Sound :=
            .directory distinct (List.forall_mem_cons.mpr valid)
              (List.forall_mem_cons.mpr ⟨hu, sound.2⟩)
          refine ⟨hsound', samePlaces_directory hsound hsound' (fun m v hmem => ?_)
            fun m v hmem => ?_⟩
          · rcases List.mem_cons.mp hmem with heq | hmem
            · obtain ⟨rfl, rfl⟩ := Prod.mk.inj heq
              exact ⟨u, List.mem_cons_self, hsame⟩
            · exact ⟨v, List.mem_cons_of_mem _ hmem, fun _ => rfl⟩
          · rcases List.mem_cons.mp hmem with heq | hmem
            · obtain ⟨rfl, rfl⟩ := Prod.mk.inj heq
              exact ⟨t, List.mem_cons_self⟩
            · exact ⟨v, List.mem_cons_of_mem _ hmem⟩

end FileTree

/-! ## Names in paths -/

namespace Path

variable {path n : String}

theorem splitChars_eq_splitBy (cs : List Char) :
    splitChars cs = Rest.Address.splitBy (· = '/') cs := by
  induction cs with
  | nil => rfl
  | cons c cs ih =>
      rw [splitChars, Rest.Address.splitBy, ih]
      by_cases hc : c = '/'
      · simp [hc]
      · cases Rest.Address.splitBy (· = '/') cs <;> simp [hc]

theorem names_append (p q : String) : names (p ++ "/" ++ q) = names p ++ names q := by
  have hchars : (p ++ "/" ++ q).toList = p.toList ++ '/' :: q.toList := by
    simp
  rw [names, names, names, hchars, splitChars_eq_splitBy,
    Rest.Address.splitBy_append_cons (by rfl), List.map_append, ← splitChars_eq_splitBy,
    ← splitChars_eq_splitBy]

theorem names_eq_singleton (h : '/' ∉ n.toList) : names n = [n] := by
  have hnone : ∀ c ∈ n.toList, decide (c = '/') = false := by
    intro c hc
    rw [decide_eq_false_iff_not]
    rintro rfl
    exact h hc
  rw [names, splitChars_eq_splitBy, Rest.Address.splitBy_of_none hnone, List.map_singleton,
    String.ofList_toList]

theorem isAbsolute_append (h : path ≠ "") (q : String) :
    isAbsolute (path ++ q) = isAbsolute path := by
  have hne : path.toList ≠ [] := fun heq => h (String.toList_eq_nil_iff.mp heq)
  rw [isAbsolute, isAbsolute, String.toList_append, List.head?_append_of_ne_nil _ hne]

/-- A name is put behind a slash, which is added if the path does not end with one. -/
theorem join_eq (hpath : path ≠ "") (hn : FileTree.ValidName n) :
    (∃ q, path = q ++ "/" ∧ join path n = q ++ "/" ++ n) ∨ join path n = path ++ "/" ++ n := by
  have hrelative : isAbsolute n = false := by
    rw [isAbsolute, decide_eq_false_iff_not]
    exact fun h => hn.noSlash (List.mem_of_head? h)
  rw [join, if_neg (by simp [hrelative])]
  by_cases hslash : path.toList.getLast? = some '/'
  · left
    obtain ⟨cs, hcs⟩ := List.getLast?_eq_some_iff.mp hslash
    have hq : path = String.ofList cs ++ "/" := by
      rw [← String.toList_inj, hcs, String.toList_append, String.toList_ofList]
      rfl
    rw [if_pos (by simp [hslash])]
    exact ⟨_, hq, congrArg (· ++ n) hq⟩
  · right
    rw [if_neg]
    simp [hslash, hpath]

end Path

/-! ## Paths that are followed -/

namespace Files

open FileTree

variable {above : List FileTree} {t u : FileTree} {names : List String} {n path : String}
  {fs : Files}

/-- A name at the end is taken from where the others lead. -/
theorem follow_concat (hn : ValidName n) :
    follow above t (names ++ [n]) = (follow above t names).bind fun t => t.entry? n := by
  induction names generalizing above t with
  | nil =>
      have hhere : Path.isHere n = false := by
        simp [Path.isHere, hn.nonempty, hn.noDots.1]
      cases t with
      | file content => rfl
      | directory entries =>
          simp only [List.nil_append, follow, enter, isDirectory, hhere, hn.noDots.2, not_true,
            if_false, Bool.false_eq_true, Except.bind]
          cases entry? n (directory entries) <;> rfl
  | cons m names ih =>
      rw [List.cons_append, follow, follow]
      cases enter above t m with
      | error p => rfl
      | ok next => exact ih

theorem follow_of_concat_empty (h : follow above t (names ++ [""]) = .ok u) :
    follow above t names = .ok u := by
  induction names generalizing above t with
  | nil =>
      cases t with
      | file content => simp [follow, enter, isDirectory] at h
      | directory entries => exact h
  | cons m names ih =>
      rw [List.cons_append, follow] at h
      rw [follow]
      cases henter : enter above t m with
      | error p => simp [henter] at h
      | ok next =>
          rw [henter] at h
          exact ih h

/-- A path that could lead somewhere if it were short enough. -/
structure Plain (path : String) : Prop where
  nonempty : path ≠ ""
  noNul : '\x00' ∉ path.toList

theorem find_of_plain (h : Plain path) : fs.find path =
    if isShort path then
      follow [] fs.root ((if Path.isAbsolute path then [] else fs.here) ++ Path.names path)
    else .error .nameTooLong := by
  rw [find, if_neg (by simpa using h.nonempty), if_neg (by simpa using h.noNul)]
  by_cases hshort : isShort path = true <;> simp [hshort]

theorem plain_of_find (h : fs.find path = .ok t) : Plain path ∧ isShort path = true := by
  rw [find] at h
  split at h
  · simp at h
  · next hne =>
    split at h
    · simp at h
    · next hnul =>
      split at h
      · simp at h
      · next hshort => exact ⟨⟨by simpa using hne, by simpa using hnul⟩, by simpa using hshort⟩

theorem plain_join (hpath : Plain path) (hn : ValidName n) : Plain (Path.join path n) := by
  obtain ⟨q, rfl, hjoin⟩ | hjoin := Path.join_eq hpath.nonempty hn
  · refine ⟨?_, ?_⟩
    · simp [hjoin]
    · have hnul := hpath.noNul
      simp_all [hn.noNul]
  · refine ⟨?_, ?_⟩
    · simp [hjoin]
    · simp [hjoin, hpath.noNul, hn.noNul]

/-- What a directory has under a name. -/
theorem find_join (hn : ValidName n) (h : fs.find path = .ok t) :
    fs.find (Path.join path n) =
      if isShort (Path.join path n) then t.entry? n else .error .nameTooLong := by
  obtain ⟨hplain, hshort⟩ := plain_of_find h
  rw [find_of_plain hplain, if_pos hshort] at h
  rw [find_of_plain (plain_join hplain hn)]
  refine if_congr Iff.rfl ?_ rfl
  -- Where the path ends with a slash, there is an empty name between the two.
  obtain ⟨q, rfl, hjoin⟩ | hjoin := Path.join_eq hplain.nonempty hn
  · have hnames : Path.names (q ++ "/") = Path.names q ++ [""] := by
      rw [← Path.names_eq_singleton (n := "") (by simp), ← Path.names_append, String.append_empty]
    rw [hnames, ← List.append_assoc] at h
    rw [hjoin, Path.isAbsolute_append hplain.nonempty, Path.names_append,
      Path.names_eq_singleton hn.noSlash, ← List.append_assoc, follow_concat hn,
      follow_of_concat_empty h]
    rfl
  · rw [hjoin, String.append_assoc, Path.isAbsolute_append hplain.nonempty, ← String.append_assoc,
      Path.names_append, Path.names_eq_singleton hn.noSlash, ← List.append_assoc,
      follow_concat hn, h]
    rfl

theorem utf8ByteSize_join (hpath : path ≠ "") (hn : ValidName n) :
    path.utf8ByteSize + n.utf8ByteSize ≤ (Path.join path n).utf8ByteSize := by
  obtain ⟨q, rfl, hjoin⟩ | hjoin := Path.join_eq hpath hn <;>
  · simp only [hjoin, String.utf8ByteSize_append]
    omega

theorem isShort_of_join (hpath : path ≠ "") (hn : ValidName n)
    (h : isShort (Path.join path n) = true) : isShort path = true := by
  have hsize := utf8ByteSize_join hpath hn
  simp only [isShort, decide_eq_true_eq] at h ⊢
  omega

theorem isShort_of_foldl_join (hpath : Plain path) (hnames : ∀ n ∈ names, ValidName n)
    (h : isShort (names.foldl Path.join path) = true) : isShort path = true := by
  induction names generalizing path with
  | nil => exact h
  | cons n names ih =>
      obtain ⟨hn, hnames⟩ := List.forall_mem_cons.mp hnames
      exact isShort_of_join hpath.nonempty hn (ih (plain_join hpath hn) hnames h)

theorem plain_foldl_join (hpath : Plain path) (hnames : ∀ n ∈ names, ValidName n) :
    Plain (names.foldl Path.join path) := by
  induction names generalizing path with
  | nil => exact hpath
  | cons n names ih =>
      obtain ⟨hn, hnames⟩ := List.forall_mem_cons.mp hnames
      exact ih (plain_join hpath hn) hnames

/-- The path of a place leads there, or else it is too long. -/
theorem find_place (hsound : t.Sound) (h : fs.find path = .ok t) (hat : t.at? names = some u) :
    fs.find (names.foldl Path.join path) =
      if isShort (names.foldl Path.join path) then .ok u else .error .nameTooLong := by
  have hvalid := hsound.valid_of_at? hat
  induction names generalizing path t with
  | nil =>
      obtain rfl := Option.some.inj hat
      rw [List.foldl_nil, h, if_pos (plain_of_find h).2]
  | cons n names ih =>
      obtain ⟨hn, hnames⟩ := List.forall_mem_cons.mp hvalid
      obtain ⟨hplain, -⟩ := plain_of_find h
      obtain ⟨entries, inner, rfl, hmem, hinner⟩ := exists_entry_of_at? hsound hat
      rw [List.foldl_cons]
      have hjoin := find_join hn h
      by_cases hshort : isShort (Path.join path n) = true
      · rw [if_pos hshort, (entry?_eq_ok hsound).mpr hmem] at hjoin
        cases hsound with
        | directory distinct valid sound => exact ih (sound _ hmem) hjoin hinner hnames
      · have hlong : ¬isShort (names.foldl Path.join (Path.join path n)) = true :=
          mt (isShort_of_foldl_join (plain_join hplain hn) hnames) hshort
        rw [find_of_plain (plain_foldl_join (plain_join hplain hn) hnames), if_neg hlong,
          if_neg hlong]

end Files

end GroupKeeper
