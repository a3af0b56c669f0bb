import GroupKeeper.Proofs.Rest.Escapes

/-! Base addresses, under which resources are found: addresses of http or https without a query and
without a fragment. Whatever text such an address was read from, the signs that end a segment or a
path do not stand in its segments. -/

namespace GroupKeeper.Rest.Address

/-- The signs that end a segment or a path. -/
def pathMarks : List Char := ['/', '?', '#']

/-- Segments that can be told apart in the text of a path. -/
def Clean (segments : List String) : Prop :=
  ∀ s ∈ segments, ∀ c ∈ s.toList, c ∉ pathMarks

/-- An address that resources can be added to. -/
structure IsBase (a : Address) : Prop where
  scheme : a.scheme = "http" ∨ a.scheme = "https"
  path : ∃ segments, a.path = .segments segments ∧ Clean segments
  query : a.query = none
  fragment : a.fragment = none

variable {a : Address} {scheme t : String} {cs : List Char} {done : List String} {s : String}

theorem Clean.append (hdone : Clean done) (hs : ∀ c ∈ s.toList, c ∉ pathMarks) :
    Clean (done ++ [s]) := by
  intro s' hs'
  rcases List.mem_append.mp hs' with hs' | hs'
  · exact hdone s' hs'
  · rw [List.mem_singleton.mp hs']
    exact hs

theorem Clean.climb (hdone : Clean done) : Clean (climb done) := by
  rw [Address.climb]
  split
  · exact hdone
  · exact fun s hs => hdone s (List.dropLast_subset done hs)

theorem eq_of_mem_pathMarks {c : Char} (h : c ∈ pathMarks) : c = '/' ∨ c = '?' ∨ c = '#' := by
  simpa [pathMarks] using h

/-- Escaped texts are clean if no mark stands for itself. -/
theorem notMem_pathMarks_of_escaped {keeps : Char → Bool} {c : Char}
    (hmarks : ∀ c ∈ pathMarks, keeps c = true → c ∉ cs) (hc : c ∈ escapeUnless keeps cs) :
    c ∉ pathMarks := by
  intro hmark
  have hescaping : isEscaping c = false := by
    obtain rfl | rfl | rfl := eq_of_mem_pathMarks hmark <;> rfl
  obtain ⟨hkept, hmem⟩ := kept_of_mem_escapeUnless hc hescaping
  exact hmarks c hmark hkept hmem

/-! ## Segments that are read -/

theorem notMem_pathMarks_of_segmentText {atRoot : Bool} (hslash : ∀ c ∈ cs, isSlash true c = false)
    {c : Char} (hc : c ∈ (segmentText false atRoot cs).toList) : c ∉ pathMarks := by
  rw [segmentText, Bool.false_and, Bool.false_and, if_neg Bool.false_ne_true,
    String.toList_ofList] at hc
  refine notMem_pathMarks_of_escaped (fun mark hmark hkept hmem => ?_) hc
  -- Of the marks only the slash would be kept, and it ends a segment.
  have hslashes : keptInPath mark = true → isSlash true mark = true := by
    obtain rfl | rfl | rfl := eq_of_mem_pathMarks hmark <;> decide
  exact Bool.noConfusion ((hslashes hkept).symm.trans (hslash mark hmem))

/-- Segments stay clean while more of them are read. -/
theorem clean_readSegments {pieces : List (List Char)} (hdone : Clean done)
    (hpieces : ∀ piece ∈ pieces, ∀ c ∈ piece, isSlash true c = false) :
    Clean (readSegments false done pieces) := by
  fun_induction readSegments false done pieces with
  | case1 done => exact hdone
  | case2 done last hdots => exact hdone.append (by simp)
  | case3 done last n hne hdots => exact hdone.climb.append (by simp)
  | case4 done last hdots =>
      refine hdone.append fun c => ?_
      exact notMem_pathMarks_of_segmentText (hpieces last List.mem_cons_self)
  | case5 done piece more hmore hdots ih =>
      exact ih hdone fun q hq => hpieces q (List.mem_cons_of_mem _ hq)
  | case6 done piece more hmore n hne hdots ih =>
      exact ih hdone.climb fun q hq => hpieces q (List.mem_cons_of_mem _ hq)
  | case7 done piece more hmore hdots ih =>
      refine ih (hdone.append fun c => ?_) fun q hq => hpieces q (List.mem_cons_of_mem _ hq)
      exact notMem_pathMarks_of_segmentText (hpieces piece List.mem_cons_self)

theorem clean_pathAfter (cs : List Char) : Clean (pathAfter true cs) := by
  have hread : ∀ cs : List Char, Clean (readPath true cs) := fun cs =>
    clean_readSegments (by simp [Clean]) fun piece hpiece c hc => (of_mem_splitBy hpiece hc).1
  cases cs with
  | nil => simp [pathAfter, Clean]
  | cons c rest => exact hread _

/-! ## Addresses that are read -/

theorem path_of_takeHierarchy? {site : Site} {path : Path} {rest : List Char}
    (hscheme : scheme = "http" ∨ scheme = "https")
    (h : takeHierarchy? scheme cs = some (site, path, rest)) :
    ∃ cs, path = .segments (pathAfter true cs) := by
  have hweb : webSchemes.contains scheme = true := by
    rcases hscheme with rfl | rfl <;> decide
  have hfile : scheme ≠ "file" := by
    rcases hscheme with rfl | rfl <;> decide
  simp only [takeHierarchy?, hweb, hfile, if_false, if_true, Option.bind_eq_bind,
    Option.bind_eq_some_iff] at h
  obtain ⟨⟨authority, cs'⟩, -, h⟩ := h
  simp only [Option.pure_def, Option.some.injEq, Prod.mk.injEq] at h
  exact ⟨_, h.2.1.symm⟩

/-- Every address of http or https that is read is a base, unless it has a query or a fragment. -/
theorem isBase_of_parse? (h : parse? t = some a) (hscheme : a.scheme = "http" ∨ a.scheme = "https")
    (hquery : a.query = none) (hfragment : a.fragment = none) : a.IsBase := by
  simp only [parse?, Option.bind_eq_bind, Option.bind_eq_some_iff] at h
  obtain ⟨⟨scheme, cs⟩, -, ⟨site, path, rest⟩, hhierarchy, ha⟩ := h
  obtain rfl := Option.some.inj ha
  obtain ⟨cs', hpath⟩ := path_of_takeHierarchy? hscheme hhierarchy
  exact ⟨hscheme, ⟨_, hpath, clean_pathAfter cs'⟩, hquery, hfragment⟩

/-! ## A sample -/

/-- A base that has a slash in its only segment, and an empty segment at its end. -/
def sampleBase : Address :=
  ⟨"http", .host ⟨"", "", .named "x.io", some 8080⟩, .segments ["admin%2Fv1", ""], none,
    none⟩

theorem parse?_sampleBase :
    Address.parse? "http://x.io:8080/admin%2Fv1/" = some sampleBase := by
  decide +kernel

theorem isBase_sampleBase : sampleBase.IsBase :=
  isBase_of_parse? parse?_sampleBase (.inl rfl) rfl rfl

end GroupKeeper.Rest.Address
