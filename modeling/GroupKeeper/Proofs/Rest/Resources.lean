import GroupKeeper.Rest.Service
import GroupKeeper.Proofs.Rest.Base

/-! Addresses of resources. The path of such an address says which resource it is: between its
slashes stand, escaped, the segments of the base and the names of the resource, whatever characters
the names have. No two resources share an address. -/

namespace GroupKeeper.Rest

/-- A group of the directory, its members, or one member. -/
inductive Resource where
  | group (key : String)
  | members (key : String)
  | member (key id : String)
  deriving DecidableEq

namespace Resource

/-- The keys in the name of a resource. -/
def keys : Resource → List String
  | group key | members key => [key]
  | member key id => [key, id]

/-- The segments of a resource below the base. -/
def segments : Resource → List String
  | group key => ["groups", key]
  | members key => ["groups", key, "members"]
  | member key id => ["groups", key, "members", id]

/-- The address of a resource. -/
def address (s : Service) : Resource → Except Failure Address
  | group key => s.groupAddress key
  | members key => s.membersAddress key
  | member key id => s.memberAddress key id

end Resource

namespace Address

/-- The text of an address up to its path. -/
def origin (a : Address) : String :=
  a.scheme ++ ":" ++ a.site.text

/-- A text of which a segment is made as it is: it is no row of one or two dots, and it has no tabs
and line ends, which are passed over. -/
structure Usable (s : String) : Prop where
  noDots : s ≠ "." ∧ s ≠ ".."
  noBreaks : '\t' ∉ s.toList ∧ '\n' ∉ s.toList ∧ '\r' ∉ s.toList

variable {path : List String} {s : String} {keeps : Char → Bool}

/-! ## Adding segments -/

/-- A text as a segment. -/
def escaped (keeps : Char → Bool) (s : String) : String :=
  String.ofList (escapeUnless keeps s.toList)

/-- A path to which something is added. That of the root has no segments. -/
def rooted (path : List String) : List String :=
  if path = [""] then [] else path

theorem extendPath_of_usable (h : Usable s) :
    extendPath keeps path s = rooted path ++ [escaped keeps s] := by
  have hkept : s.toList.filter (!isPassedOver ·) = s.toList := by
    rw [List.filter_eq_self]
    intro c hc
    simp only [isPassedOver, Bool.not_eq_true', decide_eq_false_iff_not]
    rintro (rfl | rfl | rfl)
    · exact h.noBreaks.1 hc
    · exact h.noBreaks.2.1 hc
    · exact h.noBreaks.2.2 hc
  have hdot : s.toList ≠ ['.'] := fun heq => h.noDots.1 (String.toList_inj.mp heq)
  have hdots : s.toList ≠ ['.', '.'] := fun heq => h.noDots.2 (String.toList_inj.mp heq)
  rw [extendPath, if_neg (not_or.mpr h.noDots), hkept, addSegment]
  · rfl
  · exact hdot
  · exact hdots

theorem rooted_of_mem {s : String} (hmem : s ∈ path) (hs : s ≠ "") : rooted path = path := by
  refine if_neg ?_
  rintro rfl
  exact hs (List.mem_singleton.mp hmem)

/-- Segments are added in their order to a path that is not the root. -/
theorem foldl_extendPath {segments : List String} (hsegments : ∀ s ∈ segments, Usable s)
    {s : String} (hmem : s ∈ path) (hs : s ≠ "") :
    segments.foldl (extendPath keeps) path = path ++ segments.map (escaped keeps) := by
  induction segments generalizing path with
  | nil => simp
  | cons t segments ih =>
      obtain ⟨ht, hsegments⟩ := List.forall_mem_cons.mp hsegments
      rw [List.foldl_cons, extendPath_of_usable ht, rooted_of_mem hmem hs,
        ih hsegments (List.mem_append_left _ hmem), List.append_assoc]
      rfl

theorem dropEmptyEnd_eq_filter (hroot : path ≠ [""]) (h : "" ∉ path.dropLast) :
    dropEmptyEnd path = path.filter (· ≠ "") := by
  fun_induction dropEmptyEnd path with
  | case1 => rfl
  | case2 s =>
      have hs : s ≠ "" := fun heq => hroot (congrArg ([·]) heq)
      simp [hs]
  | case3 s =>
      have hs : s ≠ "" := fun heq => h (by simp [heq])
      simp [hs]
  | case4 s t rest hlast ih =>
      have ht : t :: rest ≠ [""] := by
        rintro heq
        obtain ⟨rfl, rfl⟩ := List.cons.inj heq
        exact hlast rfl rfl
      obtain ⟨hs, hrest⟩ : "" ≠ s ∧ "" ∉ (t :: rest).dropLast := by
        simpa using h
      rw [ih ht hrest, List.filter_cons_of_pos (a := s) (by simpa using hs.symm)]

/-- An empty last segment counts for nothing. -/
theorem rooted_dropEmptyEnd (h : "" ∉ path.dropLast) :
    rooted (dropEmptyEnd path) = path.filter (· ≠ "") := by
  by_cases hroot : path = [""]
  · rw [hroot]
    decide
  · rw [dropEmptyEnd_eq_filter hroot h]
    refine if_neg fun heq => ?_
    have hmem : "" ∈ path.filter (· ≠ "") := by
      rw [heq]
      exact List.mem_singleton_self _
    simp at hmem

theorem keptInSegment_percent (web : Bool) : keptInSegment web '%' = false := by
  cases web <;> decide

theorem unescape_escaped (web : Bool) (s : String) :
    unescape (escaped (keptInSegment web) s).toList = bytesOf s := by
  rw [escaped, String.toList_ofList, unescape_escapeUnless (keptInSegment_percent web)]

theorem escaped_ne_empty {web : Bool} (hs : s ≠ "") : escaped (keptInSegment web) s ≠ "" := by
  intro hempty
  have hbytes := unescape_escaped web s
  rw [hempty] at hbytes
  have hnone : unescape "".toList = bytesOf "" := by
    simp [unescape, bytesOf_eq]
  exact hs (bytesOf_injective (hnone.symm.trans hbytes)).symm

theorem clean_escaped (web : Bool) (segments : List String) :
    Clean (segments.map (escaped (keptInSegment web))) := by
  intro s hs c hc
  obtain ⟨s, -, rfl⟩ := List.mem_map.mp hs
  rw [escaped, String.toList_ofList] at hc
  refine notMem_pathMarks_of_escaped (fun c hc hkept => ?_) hc
  have hmark : keptInSegment web c = false := by
    obtain rfl | rfl | rfl := eq_of_mem_pathMarks hc <;> cases web <;> rfl
  simp [hmark] at hkept

/-- What is added to a base follows its segments that are not empty. -/
theorem join?_eq {base : Address} (hpath : base.path = .segments path) (h : "" ∉ path.dropLast)
    {first : String} {more : List String} (hfirst : Usable first) (hne : first ≠ "")
    (hmore : ∀ s ∈ more, Usable s) :
    base.join? (first :: more) = some { base with
      path := .segments
        (path.filter (· ≠ "") ++ (first :: more).map (escaped (keptInSegment base.isWeb))) } := by
  have hmem : escaped (keptInSegment base.isWeb) first ∈
      path.filter (· ≠ "") ++ [escaped (keptInSegment base.isWeb) first] :=
    List.mem_append_right _ List.mem_cons_self
  simp only [join?, hpath, List.foldl_cons, extendPath_of_usable hfirst, rooted_dropEmptyEnd h,
    foldl_extendPath hmore hmem (escaped_ne_empty hne), List.append_assoc, List.map_cons,
    List.singleton_append]

/-! ## The text of a path -/

/-- Between the slashes in the text of a path its segments stand. -/
theorem text_segments {segments : List String} (hne : segments ≠ []) (hclean : Clean segments) :
    ∃ p, Path.text (.segments segments) = "/" ++ p ∧
      splitBy (· = '/') p.toList = segments.map (·.toList) ∧ ∀ c ∈ p.toList, c ≠ '?' ∧ c ≠ '#' := by
  induction segments with
  | nil => exact absurd rfl hne
  | cons s segments ih =>
      obtain ⟨hs, hsegments⟩ := List.forall_mem_cons.mp hclean
      have hslash : ∀ c ∈ s.toList, decide (c = '/') = false := by
        intro c hc
        rw [decide_eq_false_iff_not]
        rintro rfl
        exact hs _ hc (by decide)
      have hmarks : ∀ c ∈ s.toList, c ≠ '?' ∧ c ≠ '#' := by
        refine fun c hc => ⟨?_, ?_⟩ <;>
        · rintro rfl
          exact hs _ hc (by decide)
      cases segments with
      | nil =>
          refine ⟨s, ?_, ?_, hmarks⟩
          · simp [Path.text]
          · rw [splitBy_of_none hslash]
            rfl
      | cons t more =>
          obtain ⟨p, htext, hsplit, hp⟩ := ih (by simp) hsegments
          refine ⟨s ++ "/" ++ p, ?_, ?_, fun c hc => ?_⟩
          · rw [Path.text] at htext ⊢
            rw [List.map_cons, String.join_cons, htext]
            simp [String.append_assoc]
          · have hchars : (s ++ "/" ++ p).toList = s.toList ++ '/' :: p.toList := by
              simp
            rw [hchars, splitBy_append_cons (by rfl), splitBy_of_none hslash, hsplit]
            rfl
          · simp only [String.toList_append, List.mem_append] at hc
            rcases hc with (hc | hc) | hc
            · exact hmarks c hc
            · obtain rfl : c = '/' := by simpa using hc
              decide
            · exact hp c hc

end Address

namespace Resource

open Address

variable {s : Service} {path : List String} {r : Resource}

theorem segments_injective : Function.Injective segments := by
  intro r r' h
  cases r <;> cases r' <;> simp_all [segments]

theorem address_eq_resource (s : Service) (r : Resource) :
    r.address s = Service.resource s.directory r.segments := by
  cases r <;> rfl

/-- Below "groups" the segments of a resource are usable if its keys are. -/
theorem exists_segments (h : ∀ key ∈ r.keys, Usable key) :
    ∃ more, r.segments = "groups" :: more ∧ ∀ t ∈ more, Usable t := by
  have hmembers : Usable "members" := ⟨by decide, by decide⟩
  cases r with
  | group key => exact ⟨[key], rfl, h⟩
  | members key =>
      refine ⟨[key, "members"], rfl, ?_⟩
      simp_all [keys]
  | member key id =>
      refine ⟨[key, "members", id], rfl, ?_⟩
      simp_all [keys]

/-- The address of a resource is made of the base's origin and the path, in which the segments of
the base that are not empty and those of the resource are escaped. -/
theorem address_reads (hbase : s.directory.IsBase) (hpath : s.directory.path = .segments path)
    (hempty : "" ∉ path.dropLast) (hkeys : ∀ key ∈ r.keys, Usable key) :
    ∃ a p, r.address s = .ok a ∧ a.text = s.directory.origin ++ "/" ++ p ∧
      (∀ c ∈ p.toList, c ≠ '?' ∧ c ≠ '#') ∧
      (splitBy (· = '/') p.toList).map unescape =
        (path.filter (· ≠ "")).map (unescape ·.toList) ++ r.segments.map bytesOf := by
  obtain ⟨more, hsegments, hmore⟩ := exists_segments hkeys
  have hjoin := join?_eq hpath hempty (⟨by decide, by decide⟩ : Usable "groups") (by decide) hmore
  rw [← hsegments] at hjoin
  generalize hwhole : path.filter (· ≠ "") ++
    r.segments.map (escaped (keptInSegment s.directory.isWeb)) = whole at hjoin
  have hclean : Clean whole := by
    obtain ⟨path', hpath', hclean⟩ := hbase.path
    obtain rfl := Path.segments.inj (hpath.symm.trans hpath')
    intro t ht
    rcases List.mem_append.mp (hwhole ▸ ht) with ht | ht
    · exact hclean t (List.mem_of_mem_filter ht)
    · exact clean_escaped _ _ t ht
  have hne : whole ≠ [] := by
    simp [← hwhole, hsegments]
  obtain ⟨p, htext, hsplit, hmarks⟩ := text_segments hne hclean
  refine ⟨{ s.directory with path := .segments whole }, p, ?_, ?_, hmarks, ?_⟩
  · rw [address_eq_resource, Service.resource, hjoin]
  · rw [Address.text, hbase.query, hbase.fragment, htext]
    simp [marked, origin, String.append_assoc]
  · have hread : (fun t => unescape (escaped (keptInSegment s.directory.isWeb) t).toList) =
        bytesOf := funext (unescape_escaped s.directory.isWeb)
    simp only [hsplit, ← hwhole, ← hread, List.map_append, List.map_map, Function.comp_def]

/-- Let resources have keys that are usable as segments, and a base no empty segment but the last.
Then every resource has an address. It is made of the base's origin and a path without the signs of
a query or a fragment, and the pieces of the path between its slashes decode to the segments of the
base that are not empty, followed by the names of the resource, byte for byte. Addresses of
different resources are different texts. -/
theorem addresses_faithful (hbase : s.directory.IsBase) (hpath : s.directory.path = .segments path)
    (hempty : "" ∉ path.dropLast) :
    (∀ r : Resource, (∀ key ∈ r.keys, Usable key) →
      ∃ a p, r.address s = .ok a ∧ a.text = s.directory.origin ++ "/" ++ p ∧
        (∀ c ∈ p.toList, c ≠ '?' ∧ c ≠ '#') ∧
        (splitBy (· = '/') p.toList).map unescape =
          (path.filter (· ≠ "")).map (unescape ·.toList) ++ r.segments.map bytesOf) ∧
    ∀ (r r' : Resource) (a a' : Address), (∀ key ∈ r.keys, Usable key) →
      (∀ key ∈ r'.keys, Usable key) → r.address s = .ok a → r'.address s = .ok a' →
      a.text = a'.text → r = r' := by
  refine ⟨fun r hkeys => address_reads hbase hpath hempty hkeys, ?_⟩
  intro r r' a a' hkeys hkeys' ha ha' heq
  obtain ⟨b, p, hb, htext, -, hread⟩ := address_reads hbase hpath hempty hkeys
  obtain ⟨b', p', hb', htext', -, hread'⟩ := address_reads hbase hpath hempty hkeys'
  obtain rfl := Except.ok.inj (ha.symm.trans hb)
  obtain rfl := Except.ok.inj (ha'.symm.trans hb')
  obtain rfl : p = p' := by
    rw [htext, htext'] at heq
    exact (String.append_right_inj _).mp heq
  have hsegments := List.append_cancel_left (hread.symm.trans hread')
  exact segments_injective (List.map_injective_iff.mpr bytesOf_injective hsegments)

/-! ## A sample -/

theorem sampleBase_addresses :
    ∃ a p, (member "a/b?c#d" "100% é").address
        { Service.standard "token" "my_customer" with directory := sampleBase } = .ok a ∧
      a.text = "http://x.io:8080/" ++ p ∧
      (splitBy (· = '/') p.toList).map unescape =
        ["admin/v1", "groups", "a/b?c#d", "members", "100% é"].map bytesOf := by
  have hkeys : ∀ key ∈ (member "a/b?c#d" "100% é").keys, Usable key := by
    intro key hkey
    simp only [keys, List.mem_cons, List.not_mem_nil, or_false] at hkey
    rcases hkey with rfl | rfl
    · exact ⟨by decide, by decide⟩
    · exact ⟨by decide, by decide⟩
  obtain ⟨a, p, haddress, htext, -, hread⟩ := (addresses_faithful
    (s := { Service.standard "token" "my_customer" with directory := sampleBase }) isBase_sampleBase
    rfl (by decide)).1 (member "a/b?c#d" "100% é") hkeys
  have horigin : sampleBase.origin ++ "/" = "http://x.io:8080/" := by
    decide +kernel
  exact ⟨a, p, haddress, horigin ▸ htext, hread.trans (by decide +kernel)⟩

end Resource

end GroupKeeper.Rest
