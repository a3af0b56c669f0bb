import Mathlib.Data.List.Basic
import GroupKeeper.Rest.Service

/-! What a call sends over the network. A request that is accepted is noted and takes the reply that
is next in store. Requests are only ever added, and a call that is not meant to change anything
sends requests to read and no others. -/

namespace GroupKeeper.Rest

/-! ## Requests and replies -/

/-- What a reply holds: an answer of success whose body is read. -/
def Reply.held? {α : Type} (read : Json.Tree → Option α) : Reply → Option α
  | .answer r => if r.isSuccess then (Json.Tree.parse? r.body).bind read else none
  | .dropped => none

namespace Service

variable {s : Service} {n n' : Network} {m : Method} {a : Address} {body : Option Data} {α : Type}
  {read : Json.Tree → Option α}

/-- A request as it is noted when it is sent. -/
def noted (s : Service) (m : Method) (a : Address) (body : Option Data) : Request :=
  ⟨m, a.withoutFragment, "Bearer " ++ s.token, body⟩

theorem toOption_decode (read : Json.Tree → Option α) (m : Method) (a : Address) (r : Response) :
    (decode read m a r).toOption = (Json.Tree.parse? r.body).bind read := by
  rw [decode]
  split <;> next h => rw [h]; rfl

theorem fetch_of_accepts (read : Json.Tree → Option α)
    (haccepts : n.accepts ⟨m, a, "Bearer " ++ s.token, body⟩ = true) :
    (s.fetch read m a body n).1.toOption = n.replies.head?.bind (Reply.held? read) ∧
      (s.fetch read m a body n).2 =
        { n with replies := n.replies.tail, sent := n.sent ++ [s.noted m a body] } := by
  rw [fetch, request, Network.send, if_pos haccepts]
  cases hreplies : n.replies with
  | nil => exact ⟨rfl, rfl⟩
  | cons reply rest =>
      cases reply with
      | dropped => exact ⟨rfl, rfl⟩
      | answer r =>
          by_cases hsuccess : r.isSuccess = true
          · simp only [if_pos hsuccess, List.head?_cons, Option.bind_some, Reply.held?]
            exact ⟨toOption_decode .., rfl⟩
          · simp only [if_neg hsuccess, List.head?_cons, Option.bind_some, Reply.held?]
            exact ⟨rfl, rfl⟩

theorem fetch_of_refused (read : Json.Tree → Option α)
    (hrefused : n.accepts ⟨m, a, "Bearer " ++ s.token, body⟩ = false) :
    (s.fetch read m a body n).1.toOption = none ∧ (s.fetch read m a body n).2 = n := by
  rw [fetch, request, Network.send, if_neg (Bool.eq_false_iff.mp hrefused)]
  exact ⟨rfl, rfl⟩

theorem sent_fetch (haccepts : n.accepts ⟨m, a, "Bearer " ++ s.token, body⟩ = true) :
    (s.fetch read m a body n).2.sent = n.sent ++ [s.noted m a body] := by
  rw [(fetch_of_accepts read haccepts).2]

/-- Success is reported by an answer that was in store. -/
theorem fetch_eq_ok {x : α} (h : s.fetch read m a body n = (.ok x, n')) :
    n.accepts ⟨m, a, "Bearer " ++ s.token, body⟩ = true ∧ ∃ r rest,
      n.replies = .answer r :: rest ∧ (Json.Tree.parse? r.body).bind read = some x ∧
        n' = { n with replies := rest, sent := n.sent ++ [s.noted m a body] } := by
  cases haccepts : n.accepts ⟨m, a, "Bearer " ++ s.token, body⟩ with
  | false =>
      have hnone := (fetch_of_refused read haccepts).1
      rw [h] at hnone
      exact absurd hnone (Option.some_ne_none x)
  | true =>
      obtain ⟨hheld, hstate⟩ := fetch_of_accepts read haccepts
      rw [h] at hheld hstate
      obtain ⟨reply, hreply, hx⟩ := Option.bind_eq_some_iff.mp hheld.symm
      obtain ⟨rest, hreplies⟩ := List.head?_eq_some_iff.mp hreply
      cases reply with
      | dropped => simp [Reply.held?] at hx
      | answer r =>
          rw [Reply.held?, Option.ite_none_right_eq_some] at hx
          exact ⟨rfl, r, rest, hreplies, hx.2, by simpa [hreplies] using hstate⟩

/-- An answer of success that is in store is read. -/
theorem fetch_of_answer {x : α} {r : Response} {rest : List Reply}
    (haccepts : n.accepts ⟨m, a, "Bearer " ++ s.token, body⟩ = true)
    (hreplies : n.replies = .answer r :: rest) (hsuccess : r.isSuccess = true)
    (hread : (Json.Tree.parse? r.body).bind read = some x) :
    (s.fetch read m a body n).1 = .ok x := by
  have hheld := (fetch_of_accepts read haccepts).1
  rw [hreplies, List.head?_cons, Option.bind_some, Reply.held?, if_pos hsuccess, hread] at hheld
  cases hfetch : (s.fetch read m a body n).1 with
  | error f => simp [hfetch, Except.toOption] at hheld
  | ok y => simpa [hfetch, Except.toOption] using hheld

end Service

/-! ## What is sent -/

/-- All that was sent from one state of a network to another used one method. -/
def SentOnly (m : Method) (before after : Network) : Prop :=
  ∃ more, after.sent = before.sent ++ more ∧ ∀ r ∈ more, r.method = m

section SentOnly

variable {m : Method} {n n' n'' : Network}

theorem SentOnly.refl (m : Method) (n : Network) : SentOnly m n n :=
  ⟨[], by simp, by simp⟩

theorem SentOnly.trans (h : SentOnly m n n') (h' : SentOnly m n' n'') : SentOnly m n n'' := by
  obtain ⟨more, hsent, hmore⟩ := h
  obtain ⟨more', hsent', hmore'⟩ := h'
  refine ⟨more ++ more', by rw [hsent', hsent, List.append_assoc], fun r hr => ?_⟩
  rcases List.mem_append.mp hr with hr | hr
  · exact hmore r hr
  · exact hmore' r hr

end SentOnly

namespace Service

variable (s : Service) {α : Type}

theorem sentOnly_fetch (read : Json.Tree → Option α) (m : Method) (a : Address)
    (body : Option Data) (n : Network) : SentOnly m n (s.fetch read m a body n).2 := by
  cases haccepts : n.accepts ⟨m, a, "Bearer " ++ s.token, body⟩ with
  | false =>
      rw [(fetch_of_refused read haccepts).2]
      exact .refl m n
  | true => exact ⟨[s.noted m a body], sent_fetch haccepts, by simp [noted]⟩

/-- However many pages there are, each is read. -/
theorem sentOnly_pages (read : Json.Tree → Option (Page α)) (first : Address)
    (token : Option String) (n : Network) : SentOnly .get n (s.pages read first token n).2 := by
  fun_induction pages s read first token n with
  | case1 token n a f n' h =>
      have hfetch := s.sentOnly_fetch read .get a none n
      rwa [h] at hfetch
  | case2 token n a page n' h =>
      have hfetch := s.sentOnly_fetch read .get a none n
      rwa [h] at hfetch
  | case3 token n a page n' h t hfollow hless f n'' hrest ih =>
      have hfetch := s.sentOnly_fetch read .get a none n
      rw [h] at hfetch
      rw [hrest] at ih
      exact hfetch.trans ih
  | case4 token n a page n' h t hfollow hless rest n'' hrest ih =>
      have hfetch := s.sentOnly_fetch read .get a none n
      rw [h] at hfetch
      rw [hrest] at ih
      exact hfetch.trans ih

theorem sentOnly_withAddress {m : Method} (a : Except Failure Address)
    {k : Address → Network → Except Failure α × Network} {n : Network}
    (h : ∀ a, SentOnly m n (k a n).2) : SentOnly m n (withAddress a k n).2 := by
  cases a with
  | error f => exact .refl _ _
  | ok a => exact h a

theorem inContext_snd (context : String) (p : Except Failure α × Network) :
    (inContext context p).2 = p.2 := by
  obtain ⟨_ | _, n⟩ := p <;> rfl

/-- A call that is not meant to change anything sends requests to read and no others. -/
theorem sentOnly_client {c : Call} (hc : c.isMutating = false) (n : Network) :
    SentOnly .get n (s.client c n).2 := by
  cases c with
  | getGroup key => exact sentOnly_withAddress _ fun a => s.sentOnly_fetch _ .get a none n
  | listGroups =>
      refine sentOnly_withAddress _ fun a => ?_
      rw [inContext_snd]
      exact s.sentOnly_pages _ _ none n
  | listMembers key => exact sentOnly_withAddress _ fun a => s.sentOnly_pages _ a none n
  | getSettings key => exact sentOnly_withAddress _ fun a => s.sentOnly_fetch _ .get a none n
  | insertGroup | updateGroup | deleteGroup | insertMember | updateMember | deleteMember
  | patchSettings => simp [Call.isMutating] at hc

end Service

end GroupKeeper.Rest
