import GroupKeeper.Proofs.Rest.Bodies
import GroupKeeper.Proofs.Rest.Base
import GroupKeeper.Proofs.Rest.Service

/-! Lists that come in pages. One request is sent for each page, with the token that the page before
it named, until a page names no other or there is no page; the list is all that stands in the bodies
of the pages, or there is none. -/

namespace GroupKeeper.Rest

variable {α : Type}

/-! ## Pages -/

/-- The pages that are turned over among what replies hold, and the page that ends them. After each
page that is turned over there is another, for it names one; the reply after them holds no page, or
one that names no other. -/
structure Turns (held : List (Option (Page α))) (turned : List (Page α))
    (last : Option (Page α)) : Prop where
  before : held.take turned.length = turned.map some
  named : ∀ p ∈ turned, ∃ token, p.next = some token ∧ token ≠ ""
  ending : last = held[turned.length]?.join
  unnamed : ∀ p ∈ last, p.next = none ∨ p.next = some ""

theorem Page.following?_eq_none {p : Page α} :
    p.following? = none ↔ p.next = none ∨ p.next = some "" := by
  rw [following?]
  cases p.next <;> simp

theorem Page.following?_eq_some {p : Page α} {token : String} :
    p.following? = some token ↔ p.next = some token ∧ token ≠ "" := by
  rw [following?]
  cases p.next <;> simp

namespace Turns

variable {held : List (Option (Page α))} {turned : List (Page α)} {last : Option (Page α)}
  {p : Page α} {token : String}

theorem nil (h : ∀ p ∈ held.head?.join, p.following? = none) : Turns held [] held.head?.join where
  before := by simp
  named := by simp
  ending := by simp [List.head?_eq_getElem?]
  unnamed p hp := Page.following?_eq_none.mp (h p hp)

theorem cons (hnext : p.following? = some token) (h : Turns held turned last) :
    Turns (some p :: held) (p :: turned) last where
  before := by simpa using h.before
  named := List.forall_mem_cons.mpr ⟨⟨token, Page.following?_eq_some.mp hnext⟩, h.named⟩
  ending := by simpa using h.ending
  unnamed := h.unnamed

theorem exists_of_cons (h : Turns held (p :: turned) last) :
    ∃ rest, held = some p :: rest ∧ Turns rest turned last := by
  obtain ⟨hbefore, hnamed, hending, hunnamed⟩ := h
  cases held with
  | nil => simp at hbefore
  | cons x rest =>
      obtain ⟨rfl, hrest⟩ := List.cons.inj hbefore
      exact ⟨rest, rfl, hrest, (List.forall_mem_cons.mp hnamed).2, by simpa using hending,
        hunnamed⟩

/-- A page that is turned over is not the last. -/
theorem not_nil_of_cons {last' : Option (Page α)} (h : Turns held (p :: turned) last) :
    ¬Turns held [] last' := by
  intro hnil
  obtain ⟨rest, rfl, -⟩ := h.exists_of_cons
  obtain ⟨token, hnext, htoken⟩ := h.named p List.mem_cons_self
  rcases hnil.unnamed p hnil.ending with hnone | hempty
  · simp [hnone] at hnext
  · exact htoken (Option.some.inj (hnext.symm.trans hempty))

/-- Which pages are turned over, and which one is the last, is settled by what the replies hold. -/
theorem unique {turned' : List (Page α)} {last' : Option (Page α)} (h : Turns held turned last)
    (h' : Turns held turned' last') : turned = turned' ∧ last = last' := by
  induction turned generalizing held turned' with
  | nil =>
      cases turned' with
      | nil => exact ⟨rfl, h.ending.trans h'.ending.symm⟩
      | cons q turned' => exact absurd h h'.not_nil_of_cons
  | cons p turned ih =>
      cases turned' with
      | nil => exact absurd h' h.not_nil_of_cons
      | cons q turned' =>
          obtain ⟨rest, rfl, hrest⟩ := h.exists_of_cons
          obtain ⟨rest', hheld, hrest'⟩ := h'.exists_of_cons
          obtain ⟨hpage, rfl⟩ := List.cons.inj hheld
          obtain rfl := Option.some.inj hpage
          obtain ⟨rfl, hlast⟩ := ih hrest hrest'
          exact ⟨rfl, hlast⟩

end Turns

/-! ## Requests for pages -/

theorem Address.pairs?_addPairs (a : Address) (pairs : List (String × String)) :
    (a.addPairs pairs).pairs? = a.pairs?.map (· ++ pairs) := by
  induction pairs generalizing a with
  | nil => simp [addPairs]
  | cons pair pairs ih =>
      have hcons : a.addPairs (pair :: pairs) = (a.addPair pair.1 pair.2).addPairs pairs := rfl
      rw [hcons, ih, pairs?_addPair, Option.map_map]
      simp [Function.comp_def]

theorem Address.exists_addPairs (a : Address) (pairs : List (String × String)) :
    ∃ query, a.addPairs pairs = { a with query := query } := by
  induction pairs generalizing a with
  | nil => exact ⟨a.query, rfl⟩
  | cons pair pairs ih => exact ih (a.addPair pair.1 pair.2)

/-- The address of a page. All but the first have a token added. -/
def pageAddress (first : Address) (token : Option String) : Address :=
  first.addPairs (token.toList.map ("pageToken", ·))

theorem scheme_pageAddress (first : Address) (token : Option String) :
    (pageAddress first token).scheme = first.scheme := by
  obtain ⟨query, h⟩ := first.exists_addPairs (token.toList.map ("pageToken", ·))
  rw [pageAddress, h]

namespace Service

/-- Whether the requests of a service go over a network: hosts can be reached, and the token can be
written into a header. -/
def isHeard (s : Service) (n : Network) : Bool :=
  n.isUp && s.token.toList.all Network.isHeaderChar

variable {s : Service} {n : Network} {m : Method} {a first : Address} {body : Option Data}
  {read : Json.Tree → Option (Page α)}

theorem accepts_eq_isHeard (hscheme : a.scheme = "http" ∨ a.scheme = "https") :
    n.accepts ⟨m, a, "Bearer " ++ s.token, body⟩ = s.isHeard n := by
  have hweb : ["http", "https"].contains a.scheme = true := by
    rcases hscheme with h | h <;> rw [h] <;> decide
  have hbearer : "Bearer ".toList.all Network.isHeaderChar = true := by
    decide
  rw [Network.accepts, isHeard, hweb, String.toList_append, List.all_append, hbearer,
    Bool.and_true, Bool.true_and]

/-- A network after a page was asked for. -/
def afterPage (s : Service) (first : Address) (token : Option String) (n : Network) : Network :=
  { n with
    replies := n.replies.tail
    sent := n.sent ++ [s.noted .get (pageAddress first token) none] }

theorem fetch_page (read : Json.Tree → Option (Page α))
    (hscheme : first.scheme = "http" ∨ first.scheme = "https")
    (token : Option String) (hheard : s.isHeard n = true) :
    (s.fetch read .get (pageAddress first token) none n).1.toOption =
        (n.replies.map (Reply.held? read)).head?.join ∧
      (s.fetch read .get (pageAddress first token) none n).2 = s.afterPage first token n := by
  rw [← scheme_pageAddress first token] at hscheme
  obtain ⟨hheld, hstate⟩ := fetch_of_accepts read ((accepts_eq_isHeard hscheme).trans hheard)
  refine ⟨?_, hstate⟩
  rw [hheld]
  cases n.replies <;> rfl

/-- A list has its items from one page after the other, as long as a page names another, and from
no page if one of them is not had. The network is asked no more than that. -/
theorem pages_eq (s : Service) (read : Json.Tree → Option (Page α)) (first : Address)
    (token : Option String) (n : Network) :
    (s.pages read first token n).1.toOption =
        (s.fetch read .get (pageAddress first token) none n).1.toOption.bind (fun page =>
          page.following?.elim (some page.items) fun t =>
            (s.pages read first (some t)
              (s.fetch read .get (pageAddress first token) none n).2).1.toOption.map
              (page.items ++ ·)) ∧
      (s.pages read first token n).2 =
        ((s.fetch read .get (pageAddress first token) none n).1.toOption.bind
          Page.following?).elim (s.fetch read .get (pageAddress first token) none n).2 fun t =>
            (s.pages read first (some t)
              (s.fetch read .get (pageAddress first token) none n).2).2 := by
  fun_cases pages s read first token n with
  | case1 a f n' hfetch =>
      have ha : pageAddress first token = a := by cases token <;> rfl
      rw [ha, hfetch]
      exact ⟨rfl, rfl⟩
  | case2 a page n' hfetch hlast =>
      have ha : pageAddress first token = a := by cases token <;> rfl
      simp [ha, hfetch, hlast, Except.toOption]
  | case3 a page n' hfetch t hnext hless f n'' hrest
  | case4 a page n' hfetch t hnext hless rest n'' hrest =>
      have ha : pageAddress first token = a := by cases token <;> rfl
      simp [ha, hfetch, hnext, hrest, Except.toOption]

/-- A list that starts with the page of a token is read: pages are turned over from the first reply
on, and each is asked for once, with the token that the page before it names. -/
structure Turning (s : Service) (read : Json.Tree → Option (Page α)) (first : Address)
    (token : Option String) (n : Network) (turned : List (Page α)) (last : Option (Page α)) :
    Prop where
  turns : Turns (n.replies.map (Reply.held? read)) turned last
  result : (s.pages read first token n).1.toOption =
    last.map fun p => turned.flatMap (·.items) ++ p.items
  after : (s.pages read first token n).2 = { n with
    replies := n.replies.drop (turned.length + 1)
    sent := n.sent ++ (token :: turned.map (·.next)).map
      fun t => s.noted .get (pageAddress first t) none }

namespace Turning

variable {token : Option String} {turned : List (Page α)} {last : Option (Page α)} {page : Page α}
  {t : String}

theorem nil (hscheme : first.scheme = "http" ∨ first.scheme = "https")
    (hheard : s.isHeard n = true)
    (h : ∀ p ∈ (n.replies.map (Reply.held? read)).head?.join, p.following? = none) :
    Turning s read first token n [] (n.replies.map (Reply.held? read)).head?.join := by
  obtain ⟨hheld, hstate⟩ := fetch_page read hscheme token hheard
  obtain ⟨hresult, hafter⟩ := pages_eq s read first token n
  rw [hheld] at hresult hafter
  refine ⟨.nil h, ?_, ?_⟩
  · rw [hresult]
    cases hpage : (n.replies.map (Reply.held? read)).head?.join with
    | none => rfl
    | some page => simp [h page hpage]
  · rw [hafter, Option.bind_eq_none_iff.mpr h, Option.elim_none, hstate, afterPage]
    simp

theorem cons (hscheme : first.scheme = "http" ∨ first.scheme = "https")
    (hheard : s.isHeard n = true) {reply : Reply} {rest : List Reply}
    (hreplies : n.replies = reply :: rest) (hpage : reply.held? read = some page)
    (hnext : page.following? = some t)
    (h : Turning s read first (some t) (s.afterPage first token n) turned last) :
    Turning s read first token n (page :: turned) last := by
  obtain ⟨hheld, hstate⟩ := fetch_page read hscheme token hheard
  obtain ⟨hresult, hafter⟩ := pages_eq s read first token n
  have hhead : (n.replies.map (Reply.held? read)).head?.join = some page := by
    rw [hreplies, List.map_cons, hpage]
    rfl
  rw [hheld, hstate, hhead, Option.bind_some, hnext, Option.elim_some] at hresult hafter
  refine ⟨?_, ?_, ?_⟩
  · have hturns := h.turns
    rw [afterPage, hreplies, List.tail_cons] at hturns
    rw [hreplies, List.map_cons, hpage]
    exact hturns.cons hnext
  · rw [hresult, h.result, Option.map_map]
    simp [Function.comp_def]
  · rw [hafter, h.after, afterPage]
    simp [(Page.following?_eq_some.mp hnext).1]

end Turning

/-- The pages of a list are turned over from the first reply on, each is asked for once, and with
the token that the page before it names. -/
theorem exists_turning (read : Json.Tree → Option (Page α))
    (hscheme : first.scheme = "http" ∨ first.scheme = "https")
    (token : Option String) (hheard : s.isHeard n = true) :
    ∃ turned last, Turning s read first token n turned last := by
  induction hreplies : n.replies generalizing n token with
  | nil => exact ⟨[], _, .nil hscheme hheard (by simp [hreplies])⟩
  | cons reply rest ih =>
      cases hnext : (Reply.held? read reply).bind Page.following? with
      | none =>
          refine ⟨[], _, .nil hscheme hheard ?_⟩
          simpa [hreplies] using hnext
      | some t =>
          obtain ⟨page, hpage, hnext⟩ := Option.bind_eq_some_iff.mp hnext
          obtain ⟨turned, last, h⟩ :=
            ih (n := s.afterPage first token n) (some t) hheard (by rw [afterPage, hreplies]; rfl)
          exact ⟨_, _, .cons hscheme hheard hreplies hpage hnext h⟩

end Service

/-! ## Lists -/

/-- A request for the page of a token. It goes to the address of a list, with the pairs of the list
and the token, if there is one, in its query. -/
structure AsksPage (s : Service) (a : Address) (pairs : List (String × String))
    (token : Option String) (r : Request) : Prop where
  request : r = ⟨.get, r.address, "Bearer " ++ s.token, none⟩
  address : { r.address with query := none } = a
  query : r.address.pairs? = some (pairs ++ token.toList.map ("pageToken", ·))

/-- A list is read from the pages that are turned over and the last one. It is read as a whole, or
there is none if there is no last page. One request is sent for each of the pages, in their order,
and no other. -/
structure Listed (s : Service) (read : Json.Tree → Option (Page α)) (a : Address)
    (pairs : List (String × String)) (n : Network) (outcome : Except Failure (List α) × Network)
    (turned : List (Page α)) (last : Option (Page α)) (requests : List Request) : Prop where
  turns : Turns (n.replies.map (Reply.held? read)) turned last
  result : outcome.1.toOption = last.map fun p => turned.flatMap (·.items) ++ p.items
  sent : outcome.2.sent = n.sent ++ requests
  asked : List.Forall₂ (AsksPage s a pairs) (none :: turned.map (·.next)) requests
  replies : outcome.2.replies = n.replies.drop requests.length

/-- A list comes in pages. A page has all items that stand under the name of the list in its body,
in their order, and the token that stands there. If the service is not heard there is no list and no
request. -/
structure Paged (s : Service) (name : String) (item : Json.Tree → Option α) (a : Address)
    (pairs : List (String × String)) (n : Network) (outcome : Except Failure (List α) × Network) :
    Prop where
  pages : ∀ t p, Service.readPage name item t = some p ↔ IsPage name item t p
  heard : s.isHeard n = true → ∃ turned last requests,
    Listed s (Service.readPage name item) a pairs n outcome turned last requests
  unheard : s.isHeard n = false → outcome.1.toOption = none ∧ outcome.2 = n

namespace Service

variable {s : Service} {n : Network} {a : Address} {name : String} {item : Json.Tree → Option α}

theorem asksPage_noted (hquery : a.query = none) (hfragment : a.fragment = none)
    (pairs : List (String × String)) (token : Option String) :
    AsksPage s a pairs token (s.noted .get (pageAddress (a.addPairs pairs) token) none) := by
  have hpage : pageAddress (a.addPairs pairs) token =
      a.addPairs (pairs ++ token.toList.map ("pageToken", ·)) := by
    rw [pageAddress, Address.addPairs, Address.addPairs, Address.addPairs, List.foldl_append]
  refine ⟨rfl, ?_, ?_⟩
  · obtain ⟨query, hpairs⟩ := a.exists_addPairs (pairs ++ token.toList.map ("pageToken", ·))
    cases a
    simp_all [noted, Address.withoutFragment]
  · have hnone : a.pairs? = some [] := by
      rw [Address.pairs?, hquery]
      exact readPairs?_empty
    change (pageAddress (a.addPairs pairs) token).pairs? = _
    rw [hpage, Address.pairs?_addPairs, hnone]
    rfl

theorem paged_pages (hscheme : a.scheme = "http" ∨ a.scheme = "https") (hquery : a.query = none)
    (hfragment : a.fragment = none) (pairs : List (String × String)) :
    Paged s name item a pairs n (s.pages (readPage name item) (a.addPairs pairs) none n) := by
  have hfirst : (a.addPairs pairs).scheme = "http" ∨ (a.addPairs pairs).scheme = "https" := by
    obtain ⟨query, h⟩ := a.exists_addPairs pairs
    rwa [h]
  refine ⟨fun t p => readPage_iff, fun hheard => ?_, fun hunheard => ?_⟩
  · obtain ⟨turned, last, h⟩ := exists_turning (readPage name item) hfirst none hheard
    refine ⟨turned, last, _, h.turns, h.result, by rw [h.after], ?_, ?_⟩
    · rw [List.forall₂_map_right_iff, List.forall₂_same]
      exact fun token _ => asksPage_noted hquery hfragment pairs token
    · rw [h.after]
      simp
  · have hrefused : n.accepts ⟨.get, pageAddress (a.addPairs pairs) none, "Bearer " ++ s.token,
        none⟩ = false := (accepts_eq_isHeard hfirst).trans hunheard
    obtain ⟨hnone, hstate⟩ := fetch_of_refused (readPage name item) hrefused
    obtain ⟨hresult, hafter⟩ := pages_eq s (readPage name item) (a.addPairs pairs) none n
    rw [hnone] at hresult hafter
    exact ⟨hresult, hafter.trans hstate⟩

/-- A failure that is put into a context is a failure still. -/
theorem paged_inContext {pairs : List (String × String)} (context : String)
    {outcome : Except Failure (List α) × Network} (h : Paged s name item a pairs n outcome) :
    Paged s name item a pairs n (inContext context outcome) := by
  obtain ⟨result, n'⟩ := outcome
  cases result with
  | ok items => exact h
  | error f =>
      refine ⟨h.pages, fun hheard => ?_, h.unheard⟩
      obtain ⟨turned, last, requests, hlist⟩ := h.heard hheard
      exact ⟨turned, last, requests, hlist.turns, hlist.result, hlist.sent, hlist.asked,
        hlist.replies⟩

/-- Below a base every resource has an address. -/
theorem exists_resource {base : Address} (hbase : base.IsBase) (segments : List String) :
    ∃ path, resource base segments = .ok { base with path := path } := by
  obtain ⟨path, hpath, -⟩ := hbase.path
  rw [resource, Address.join?, hpath]
  exact ⟨_, rfl⟩

end Service

/-- Below a base lists are read page by page, whatever stands in the tokens and in the name of the
customer. -/
theorem client_paged {s : Service} (hbase : s.directory.IsBase) (n : Network) :
    (∃ a, s.groupsAddress = .ok a ∧
      Paged s "groups" (Group.read Json.Tree.reader) a
        [("customer", s.customer), ("orderBy", "email")] n (s.client .listGroups n)) ∧
    ∀ key, ∃ a, s.membersAddress key = .ok a ∧
      Paged s "members" (Member.read Json.Tree.reader) a [] n (s.client (.listMembers key) n) := by
  refine ⟨?_, fun key => ?_⟩
  · obtain ⟨path, haddress⟩ := Service.exists_resource hbase ["groups"]
    refine ⟨_, haddress, ?_⟩
    rw [Service.client, Service.groupsAddress, haddress]
    refine Service.paged_inContext _ (Service.paged_pages ?_ ?_ ?_ _)
    · exact hbase.scheme
    · exact hbase.query
    · exact hbase.fragment
  · obtain ⟨path, haddress⟩ := Service.exists_resource hbase ["groups", key, "members"]
    refine ⟨_, haddress, ?_⟩
    rw [Service.client, Service.membersAddress, haddress]
    refine Service.paged_pages ?_ ?_ ?_ []
    · exact hbase.scheme
    · exact hbase.query
    · exact hbase.fragment

/-! ## A sample -/

/-- Groups in three pages, of which one has none, and a reply that nothing asks for. A token has the
signs in it that stand between names, values and pairs. -/
def sampleReplies : List Reply :=
  [.answer ⟨200,
      "\x7b\"groups\": [\x7b\"id\": \"7\", \"email\": \"a@x.io\", \"name\": \"A\"\x7d," ++
        "\x7b\"email\": \"b@x.io\"\x7d], \"nextPageToken\": \"&=+% é\"\x7d"⟩,
    .answer ⟨200, "\x7b\"nextPageToken\": \"3\"\x7d"⟩,
    .answer ⟨200,
      "\x7b\"groups\": [\x7b\"email\": \"c@x.io\"\x7d, \x7b\"email\": \"d@x.io\"\x7d]," ++
        "\"nextPageToken\": null\x7d"⟩,
    .dropped]

/-- A group of which nothing but the address is said. -/
def sampleGroup (email : String) : Group :=
  ⟨"", email, "", ""⟩

/-- The pages of the sample that are turned over. -/
def sampleTurned : List (Page Group) :=
  [⟨[⟨"7", "a@x.io", "A", ""⟩, sampleGroup "b@x.io"], some "&=+% é"⟩, ⟨[], some "3"⟩]

def sampleLast : Page Group :=
  ⟨["c@x.io", "d@x.io"].map sampleGroup, none⟩

theorem held_sampleReplies :
    sampleReplies.map (Reply.held? (Service.readPage "groups" (Group.read Json.Tree.reader))) =
      (sampleTurned ++ [sampleLast]).map some ++ [none] := by
  decide +kernel

/-- Of the sample two pages are turned over, and the third is the last. -/
theorem turns_sampleReplies :
    Turns (sampleReplies.map (Reply.held? (Service.readPage "groups"
      (Group.read Json.Tree.reader)))) sampleTurned (some sampleLast) := by
  rw [held_sampleReplies]
  refine .cons rfl (.cons rfl (.nil ?_))
  simp [sampleLast, Page.following?]

/-- A service whose customer has such signs in its name too. -/
def sampleCustomer : Service :=
  { Service.standard "token" "a&b=c d" with directory := .sampleBase }

/-- The sample is listed with three requests. -/
theorem sampleReplies_listed :
    ∃ requests,
      (sampleCustomer.client .listGroups (.ofReplies sampleReplies)).1.toOption =
        some (⟨"7", "a@x.io", "A", ""⟩ :: ["b@x.io", "c@x.io", "d@x.io"].map sampleGroup) ∧
      (sampleCustomer.client .listGroups (.ofReplies sampleReplies)).2.sent = requests ∧
      requests.map (·.address.pairs?) = [none, some "&=+% é", some "3"].map fun token =>
        some ([("customer", "a&b=c d"), ("orderBy", "email")] ++
          token.toList.map ("pageToken", ·)) := by
  obtain ⟨⟨a, -, h⟩, -⟩ :=
    client_paged (s := sampleCustomer) Address.isBase_sampleBase (.ofReplies sampleReplies)
  obtain ⟨turned, last, requests, hlist⟩ := h.heard (by decide)
  obtain ⟨rfl, rfl⟩ := hlist.turns.unique turns_sampleReplies
  refine ⟨requests, hlist.result, hlist.sent, ?_⟩
  rw [eq_comm, ← List.forall₂_eq_eq_eq, List.forall₂_map_left_iff, List.forall₂_map_right_iff]
  exact hlist.asked.imp fun token r hr => hr.query.symm

end GroupKeeper.Rest
