import GroupKeeper.Rest.Address
import GroupKeeper.Data.Basic

/-! A network with answers that are known in advance. Each request that is sent takes the next
answer; when none is left, every request is answered by a failing server. -/

namespace GroupKeeper.Rest

/-- What a request asks for. -/
inductive Method where
  | get
  | post
  | put
  | patch
  | delete
  deriving Repr, DecidableEq

/-- The name of a method. -/
def Method.name : Method → String
  | get => "GET"
  | post => "POST"
  | put => "PUT"
  | patch => "PATCH"
  | delete => "DELETE"

/-- A request to a service. -/
structure Request where
  method : Method
  address : Address
  authorization : String
  body : Option Data
  deriving DecidableEq

/-- An answer to a request. -/
structure Response where
  status : Nat
  body : String
  deriving Repr, DecidableEq

/-- Whether an answer reports success. -/
def Response.isSuccess (r : Response) : Bool := 200 ≤ r.status && r.status < 300

/-- What the network has in store for a request. -/
inductive Reply where
  | answer (response : Response)
  /-- The connection closes without an answer. -/
  | dropped
  deriving Repr, DecidableEq

/-- A network, with what was sent over it. -/
structure Network where
  /-- Whether hosts can be reached at all. -/
  isUp : Bool
  replies : List Reply
  sent : List Request
  deriving DecidableEq

namespace Network

/-- A network over which nothing was sent yet. -/
def ofReplies (replies : List Reply) : Network := ⟨true, replies, []⟩

/-- A network over which no host can be reached. -/
def down : Network := ⟨false, [], []⟩

/-- The answer of a server that has no other. -/
def exhausted : Response := ⟨500, "no more responses"⟩

/-- Whether a character may stand in a header. -/
def isHeaderChar (c : Char) : Bool := c = '\t' || (0x20 ≤ c.toNat && c.toNat ≠ 0x7F)

/-- Whether a request can be sent: over the web, and with characters that may stand in its
header. -/
def accepts (n : Network) (r : Request) : Bool :=
  n.isUp && ["http", "https"].contains r.address.scheme
    && r.authorization.toList.all isHeaderChar

/-- Sends a request. There is no answer if it cannot be sent or the connection is closed. -/
def send (n : Network) (r : Request) : Option Response × Network :=
  if n.accepts r then
    let n := { n with sent := n.sent ++ [{ r with address := r.address.withoutFragment }] }
    match n.replies with
    | .answer response :: more => (some response, { n with replies := more })
    | .dropped :: more => (none, { n with replies := more })
    | [] => (some exhausted, n)
  else (none, n)

/-- An answer of success was in store. -/
theorem length_replies_send {n m : Network} {r : Request} {response : Response}
    (h : n.send r = (some response, m)) (hs : response.isSuccess = true) :
    m.replies.length < n.replies.length := by
  simp only [send] at h
  split at h
  · split at h
    · next hr => simp_all [← (Prod.mk.inj h).2]
    · simp at h
    · simp only [Prod.mk.injEq, Option.some.injEq] at h
      simp [← h.1, exhausted, Response.isSuccess] at hs
  · simp at h

end Network

end GroupKeeper.Rest
