import GroupKeeper.Call
import GroupKeeper.Json.Tree
import GroupKeeper.Text.Blank
import GroupKeeper.Rest.Network

/-! The directory and its settings service behind web addresses. Each call becomes one request, or
one for each page of a list. -/

namespace GroupKeeper.Rest

/-- Where the services are and how to ask them. -/
structure Service where
  token : String
  customer : String
  directory : Address
  settings : Address
  deriving DecidableEq

/-- One page of a list, and the token of the next one. -/
structure Page (α : Type) where
  items : List α
  next : Option String
  deriving DecidableEq

/-- The token of the next page, if there is a next page. -/
def Page.following? {α : Type} (p : Page α) : Option String :=
  p.next.filter (!·.isEmpty)

namespace Service

/-- The address of the directory if nothing else is said. -/
def directoryBase : Address :=
  ⟨"https", .host (.named "admin.googleapis.com"), .segments ["admin", "directory", "v1", ""], none,
    none⟩

/-- The address of the settings service if nothing else is said. -/
def settingsBase : Address :=
  ⟨"https", .host (.named "www.googleapis.com"), .segments ["groups", "v1", ""], none, none⟩

/-- The customer whose groups are listed if nothing else is said. -/
def defaultCustomer : String := "my_customer"

/-- The services where they usually are. -/
def standard (token customer : String) : Service := ⟨token, customer, directoryBase, settingsBase⟩

/-- The failure of a base address to which nothing can be added. -/
def notABase (base : Address) : Failure :=
  .ofMessage (base.text ++ " cannot be a base URL")

/-- The address of a resource. -/
def resource (base : Address) (segments : List String) : Except Failure Address :=
  match base.join? segments with
  | some a => .ok a
  | none => .error (notABase base)

/-- The address of the groups. -/
def groupsAddress (s : Service) : Except Failure Address := resource s.directory ["groups"]

/-- The address of a group. -/
def groupAddress (s : Service) (key : String) : Except Failure Address :=
  resource s.directory ["groups", key]

/-- The address of the members of a group. -/
def membersAddress (s : Service) (key : String) : Except Failure Address :=
  resource s.directory ["groups", key, "members"]

/-- The address of a member. -/
def memberAddress (s : Service) (key id : String) : Except Failure Address :=
  resource s.directory ["groups", key, "members", id]

/-- The address of the settings of a group. -/
def settingsAddress (s : Service) (key : String) : Except Failure Address := do
  return (← resource s.settings ["groups", key]).addPair "alt" "json"

/-- The message in the body of an error, if the body has the usual form. -/
def errorMessage? (body : String) : Option String := do
  let r := Json.Tree.reader
  let outer ← r.fields ["error"] (← Json.Tree.parse? body)
  let inner ← r.fields ["message"] (← outer "error")
  Reader.withDefault "" r.text (inner "message")

/-- An error that a service reports: the message in its body, or else the body itself. -/
def serviceError (m : Method) (a : Address) (r : Response) : ServiceError where
  method := m.name
  url := a.text
  status := r.status
  message := (errorMessage? r.body).getD (Text.trim r.body)

/-- Sends a request and waits for an answer of success. -/
def request (s : Service) (m : Method) (a : Address) (body : Option Data) (n : Network) :
    Except Failure Response × Network :=
  match n.send ⟨m, a, "Bearer " ++ s.token, body⟩ with
  | (none, n) =>
    (.error (.during (m.name ++ " " ++ a.text ++ " failed") (.because (.outside .transport))), n)
  | (some r, n) =>
    if r.isSuccess then (.ok r, n) else (.error (.because (.service (serviceError m a r))), n)

/-- Reads the body of an answer. -/
def decode {α : Type} (read : Json.Tree → Option α) (m : Method) (a : Address) (r : Response) :
    Except Failure α :=
  match (Json.Tree.parse? r.body).bind read with
  | some x => .ok x
  | none => .error (.during ("failed to decode response from " ++ m.name ++ " " ++ a.text)
      (.because (.outside .body)))

/-- Sends a request and reads the body of the answer. -/
def fetch {α : Type} (s : Service) (read : Json.Tree → Option α) (m : Method) (a : Address)
    (body : Option Data) (n : Network) : Except Failure α × Network :=
  match s.request m a body n with
  | (.error f, n) => (.error f, n)
  | (.ok r, n) => (decode read m a r, n)

theorem length_replies_fetch {α : Type} {s : Service} {read : Json.Tree → Option α} {m : Method}
    {a : Address} {body : Option Data} {n n' : Network} {x : α}
    (h : s.fetch read m a body n = (.ok x, n')) : n'.replies.length < n.replies.length := by
  simp only [fetch, request] at h
  split at h
  · simp at h
  · next r n₁ hr =>
    split at hr
    · simp at hr
    · next r' n₂ hsend =>
      split at hr
      · next hs =>
        simp only [Prod.mk.injEq] at h hr
        obtain ⟨-, rfl⟩ := h
        obtain ⟨-, rfl⟩ := hr
        exact Network.length_replies_send hsend hs
      · simp at hr

/-- An optional text: nothing where it is absent or null. -/
def readOptional (a : Option Json.Tree) : Option (Option String) :=
  match a with
  | none | some .null => some none
  | some a => (Json.Tree.reader.text a).map some

/-- Reads a page, whose items stand under a given name. As a row of values a page has to be
complete. -/
def readPage {α : Type} (name : String) (read : Json.Tree → Option α) (t : Json.Tree) :
    Option (Page α) := do
  if let .list xs := t then guard (xs.length = 2)
  let r := Json.Tree.reader
  let field ← r.fields [name, "nextPageToken"] t
  return {
    items := ← Reader.withDefault [] (fun a => do (← r.items a).mapM read) (field name)
    next := ← readOptional (field "nextPageToken") }

/-- Fetches page after page and joins their items. `first` is the address of the first page; the
others have a token added. -/
def pages {α : Type} (s : Service) (read : Json.Tree → Option (Page α)) (first : Address)
    (token : Option String) (n : Network) : Except Failure (List α) × Network :=
  let a := match token with
    | none => first
    | some t => first.addPair "pageToken" t
  match h : s.fetch read .get a none n with
  | (.error f, n') => (.error f, n')
  | (.ok page, n') => match page.following? with
    | none => (.ok page.items, n')
    | some t =>
      have := length_replies_fetch h
      match s.pages read first (some t) n' with
      | (.error f, n'') => (.error f, n'')
      | (.ok rest, n'') => (.ok (page.items ++ rest), n'')
termination_by n.replies.length

/-- Reads the settings of a group. -/
def readSettings (t : Json.Tree) : Option Settings := do
  guard (t.depth ≤ Json.depthLimit)
  match t with
  | .record ms => Settings.ofEntries? (← Json.Tree.dataEntries? ms)
  | _ => none

/-- Says what a failure happened in the course of. -/
def inContext {α : Type} (context : String) :
    Except Failure α × Network → Except Failure α × Network
  | (.ok x, n) => (.ok x, n)
  | (.error f, n) => (.error (.during context f), n)

/-- Goes on with an address, if it could be built. -/
def withAddress {α : Type} (a : Except Failure Address)
    (k : Address → Network → Except Failure α × Network) (n : Network) :
    Except Failure α × Network :=
  match a with
  | .ok a => k a n
  | .error f => (.error f, n)

/-- Sends a request whose answer says nothing more. -/
def deleteAt (s : Service) (a : Address) (n : Network) : Except Failure Unit × Network :=
  match s.request .delete a none n with
  | (.ok _, n) => (.ok (), n)
  | (.error f, n) => (.error f, n)

/-- The services as a client. -/
def client (s : Service) : Client Network
  | .getGroup key =>
    withAddress (s.groupAddress key) fun a =>
      s.fetch (Group.read Json.Tree.reader) .get a none
  | .listGroups =>
    withAddress s.groupsAddress fun a n =>
      inContext "unable to list groups"
        (s.pages (readPage "groups" (Group.read Json.Tree.reader))
          (a.addPairs [("customer", s.customer), ("orderBy", "email")]) none n)
  | .insertGroup g =>
    withAddress s.groupsAddress fun a =>
      s.fetch (Group.read Json.Tree.reader) .post a (some g.toData)
  | .updateGroup key g =>
    withAddress (s.groupAddress key) fun a =>
      s.fetch (Group.read Json.Tree.reader) .put a (some g.toData)
  | .deleteGroup key => withAddress (s.groupAddress key) s.deleteAt
  | .listMembers key =>
    withAddress (s.membersAddress key) fun a =>
      s.pages (readPage "members" (Member.read Json.Tree.reader)) a none
  | .insertMember key m =>
    withAddress (s.membersAddress key) fun a =>
      s.fetch (Member.read Json.Tree.reader) .post a (some m.toData)
  | .updateMember key id m =>
    withAddress (s.memberAddress key id) fun a =>
      s.fetch (Member.read Json.Tree.reader) .put a (some m.toData)
  | .deleteMember key id => withAddress (s.memberAddress key id) s.deleteAt
  | .getSettings key =>
    withAddress (s.settingsAddress key) fun a => s.fetch readSettings .get a none
  | .patchSettings key settings =>
    withAddress (s.settingsAddress key) fun a =>
      s.fetch readSettings .patch a (some settings.toData)

/-- Whether a failure says that a group or a member does not exist. -/
def isMissing (f : Failure) : Bool :=
  match f.cause? with
  | some (.service e) => e.status = 404
  | _ => false

end Service

end GroupKeeper.Rest
