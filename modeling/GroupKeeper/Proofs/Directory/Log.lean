import GroupKeeper.Proofs.Directory.Lookup
import GroupKeeper.Proofs.Replay

/-! The record of the changing calls as the whole truth. Whatever calls are made, the directory they
lead to is the one that the recorded ones among them lead to: a call that is not recorded has
changed nothing, not even the number of the last id, and no call looks at the record. -/

namespace GroupKeeper.Directory

/-- A directory with another record. -/
def withCalls (d : Directory) (calls : List Call) : Directory := { d with calls }

section WithCalls

variable (d : Directory) (seen log : List Call)

@[simp] theorem withCalls_calls : (d.withCalls seen).calls = seen :=
  rfl

@[simp] theorem withCalls_self : d.withCalls d.calls = d :=
  rfl

@[simp] theorem withCalls_withCalls : (d.withCalls seen).withCalls log = d.withCalls log :=
  rfl

@[simp] theorem find?_withCalls (a : String) : (d.withCalls seen).find? a = d.find? a :=
  rfl

@[simp] theorem failsMember_withCalls (email : String) :
    (d.withCalls seen).failsMember email = d.failsMember email :=
  rfl

@[simp] theorem findMember_withCalls (a id : String) :
    (d.withCalls seen).findMember a id = d.findMember a id :=
  rfl

theorem record_eq (c : Call) : d.record c = d.withCalls (d.calls ++ [c]) :=
  rfl

@[simp] theorem put_withCalls (a : String) (e : DirectoryEntry) :
    (d.withCalls seen).put a e = (d.put a e).withCalls seen :=
  rfl

@[simp] theorem nextId_withCalls :
    (d.withCalls seen).nextId = (d.nextId.1, d.nextId.2.withCalls seen) :=
  rfl

@[simp] theorem find?_nextId (a : String) : d.nextId.2.find? a = d.find? a :=
  rfl

end WithCalls

/-! ## One call -/

/-- A log tells how one directory came from another: the record has grown by it, it has changing
calls only, and making them again leads from the one to the other whatever was recorded before. -/
structure Told (d t : Directory) (log : List Call) : Prop where
  calls : t.calls = d.calls ++ log
  mutating : ∀ c ∈ log, c.isMutating = true
  replay : ∀ seen, client.after log (d.withCalls seen) = t.withCalls (seen ++ log)

section Told

variable {d t u : Directory} {log log' : List Call} {c : Call}

theorem Told.nil (d : Directory) : Told d d [] := by
  constructor <;> simp

theorem Told.append (h : Told d t log) (h' : Told t u log') : Told d u (log ++ log') := by
  constructor
  · rw [h'.calls, h.calls, List.append_assoc]
  · intro c hc
    rcases List.mem_append.mp hc with hc | hc
    · exact h.mutating c hc
    · exact h'.mutating c hc
  · intro seen
    rw [Client.after_append, h.replay, h'.replay, List.append_assoc]

/-- With nothing in the log nothing has changed. -/
theorem Told.eq_of_nil (h : Told d t []) : t = d := by
  have hcalls : t.calls = d.calls := by simpa using h.calls
  have hreplay : d.withCalls t.calls = t.withCalls t.calls := by simpa using h.replay t.calls
  rw [hcalls, withCalls_self, ← hcalls, withCalls_self] at hreplay
  exact hreplay.symm

/-- A call that records itself and does not look at the record. -/
theorem Told.call (hc : c.isMutating = true)
    (h : ∀ seen, (client c (d.withCalls seen)).2 = (client c d).2.withCalls (seen ++ [c])) :
    Told d (client c d).2 [c] := by
  constructor
  · have hself := congrArg Directory.calls (h d.calls)
    simpa using hself
  · simpa using hc
  · simpa using h

/-- A call is either recorded or changes nothing, by whichever check it is stopped. -/
theorem told_client (c : Call) (d : Directory) :
    ∃ log : List Call, log.Sublist [c] ∧ Told d (client c d).2 log := by
  suffices h : (client c d).2 = d ∨ Told d (client c d).2 [c] by
    rcases h with h | h
    · exact ⟨[], List.nil_sublist _, by rw [h]; exact Told.nil d⟩
    · exact ⟨[c], List.Sublist.refl _, h⟩
  cases c with
  | getGroup a | listGroups | listMembers a | getSettings a => exact .inl rfl
  | insertGroup g =>
      by_cases hfind : (d.find? g.email).isSome = true
      · left
        simp [client, insertGroup, hfind]
      · right
        refine .call rfl fun seen => ?_
        simp [client, insertGroup, hfind, record_eq]
  | updateGroup a g =>
      right
      refine .call rfl fun seen => ?_
      cases hfind : d.find? a <;> simp [client, updateGroup, hfind, record_eq]
  | deleteGroup a =>
      right
      refine .call rfl fun seen => ?_
      cases hfind : d.find? a
      · simp [client, deleteGroup, hfind, record_eq]
      · simp [client, deleteGroup, hfind, record_eq]
        rfl
  | insertMember a m =>
      by_cases hfails : d.failsMember m.email = true
      · left
        simp [client, insertMember, hfails]
      · right
        -- The id is taken before the group and the address are looked at, so it is gone either way.
        refine .call rfl fun seen => ?_
        cases hfind : d.find? a with
        | none => simp [client, insertMember, hfails, hfind, record_eq]
        | some e =>
            by_cases hany : (e.members.any (·.email == m.email)) = true <;>
              simp [client, insertMember, hfails, hfind, hany, record_eq]
  | updateMember a id m =>
      by_cases hfails : d.failsMember m.email = true
      · left
        simp [client, updateMember, hfails]
      · right
        refine .call rfl fun seen => ?_
        cases hfind : d.findMember a id <;>
          simp [client, updateMember, hfails, hfind, record_eq]
  | deleteMember a id =>
      cases hfind : d.findMember a id with
      | error f =>
          left
          simp [client, deleteMember, hfind]
      | ok found =>
          by_cases hfails : d.failsMember found.2.email = true
          · left
            simp [client, deleteMember, hfind, hfails]
          · right
            refine .call rfl fun seen => ?_
            simp [client, deleteMember, hfind, hfails, record_eq]
  | patchSettings a settings =>
      right
      refine .call rfl fun seen => ?_
      cases hfind : d.find? a <;> simp [client, patchSettings, hfind, record_eq]

end Told

/-! ## A sequence of calls -/

/-- What the single calls record, put together, tells what the sequence did. -/
theorem told_after (calls : List Call) (d : Directory) :
    ∃ log : List Call, log.Sublist calls ∧ Told d (client.after calls d) log := by
  induction calls generalizing d with
  | nil => exact ⟨[], List.Sublist.refl _, Told.nil d⟩
  | cons c calls ih =>
      obtain ⟨first, hfirst, htold⟩ := told_client c d
      obtain ⟨log, hlog, hrest⟩ := ih (client c d).2
      exact ⟨first ++ log, hfirst.append hlog, htold.append hrest⟩

/-- Whatever is called on a directory, and whether the calls succeed or fail, the record grows by
changing calls among those made, in their order. Made again on a copy of the directory, these alone
lead to where all the calls have led; if there are none, the directory is what it was. -/
theorem after_eq_replay (d : Directory) (calls : List Call) : ∃ log : List Call,
    (client.after calls d).calls = d.calls ++ log ∧ log.Sublist calls ∧
    (∀ c ∈ log, c.isMutating = true) ∧
    (∀ seen, client.after log { d with calls := seen } =
      { client.after calls d with calls := seen ++ log }) ∧
    (log = [] → client.after calls d = d) := by
  obtain ⟨log, hlog, htold⟩ := told_after calls d
  refine ⟨log, htold.calls, hlog, htold.mutating, htold.replay, ?_⟩
  intro hnil
  subst hnil
  exact htold.eq_of_nil

/-- Calls that fail before they are recorded, afterwards, and not at all. -/
def mixedCalls : List Call :=
  [.listMembers "team@x.io", .insertMember "team@x.io" ⟨"", "ann@x.io", .owner⟩,
    .insertMember "gone@x.io" ⟨"", "bob@x.io", .member⟩,
    .insertGroup ⟨"", "Team@x.io", "", ""⟩, .insertMember "team@x.io" ⟨"", "bob@x.io", .member⟩]

/-- Calls of which none is recorded. -/
def idleCalls : List Call :=
  [.listGroups, .updateMember "team@x.io" "1" ⟨"", "ann@x.io", .owner⟩]

/-- A group, and an address for which changing a membership fails. -/
def failingDirectory : Directory :=
  (empty.withGroup "team@x.io" "" "").withFailingMember "Ann@x.io"

/-- Two of the mixed calls are recorded. One of them fails and takes an id, and the two alone lead
to the same directory. -/
theorem mixedCalls_replay :
    client.after [.insertMember "gone@x.io" ⟨"", "bob@x.io", .member⟩,
      .insertMember "team@x.io" ⟨"", "bob@x.io", .member⟩] failingDirectory =
        client.after mixedCalls failingDirectory ∧
    client.after idleCalls failingDirectory = failingDirectory := by
  constructor
  · obtain ⟨log, hcalls, -, -, hreplay, -⟩ := after_eq_replay failingDirectory mixedCalls
    have hrecord : (client.after mixedCalls failingDirectory).calls = failingDirectory.calls ++
        [.insertMember "gone@x.io" ⟨"", "bob@x.io", .member⟩,
          .insertMember "team@x.io" ⟨"", "bob@x.io", .member⟩] := by decide +kernel
    obtain rfl := List.append_cancel_left (hcalls.symm.trans hrecord)
    have hreplayed := hreplay failingDirectory.calls
    rw [← hcalls] at hreplayed
    -- Neither directory is looked into to see that it is the one with its own record put back.
    generalize client.after mixedCalls failingDirectory = t at hreplayed ⊢
    generalize failingDirectory = d at hreplayed ⊢
    exact hreplayed
  · obtain ⟨log, hcalls, -, -, -, hnil⟩ := after_eq_replay failingDirectory idleCalls
    have hrecord : (client.after idleCalls failingDirectory).calls =
        failingDirectory.calls ++ [] := by decide +kernel
    exact hnil (List.append_cancel_left (hcalls.symm.trans hrecord))

end GroupKeeper.Directory
