import Mathlib.Data.List.Nodup
import GroupKeeper.Proofs.Directory.Membership

/-! What tells groups and members apart. However a directory was built, each group stands under its
own address in small letters, and the ids of all groups and members are different numbers that were
given out. A call that fails leaves it at that: it may use up an id and be recorded, and nothing
else. -/

namespace GroupKeeper.Directory

/-! ## All ids -/

/-- The ids of all groups and their members. -/
def ids (d : Directory) : List String :=
  d.groups.values.flatMap (·.ids)

section Ids

variable {d : Directory} {id : String}

theorem mem_ids_iff : id ∈ d.ids ↔ ∃ k e, d.groups.get? k = some e ∧ id ∈ e.ids := by
  rw [ids, List.mem_flatMap]
  constructor
  · rintro ⟨e, he, hid⟩
    obtain ⟨k, hget⟩ := Dictionary.mem_values_iff.mp he
    exact ⟨k, e, hget, hid⟩
  · rintro ⟨k, e, hget, hid⟩
    exact ⟨e, Dictionary.mem_values_iff.mpr ⟨k, hget⟩, hid⟩

theorem WellFormed.issued_of_mem_ids (h : WellFormed d) (hid : id ∈ d.ids) :
    Issued d.lastId id := by
  obtain ⟨k, e, hget, hid⟩ := mem_ids_iff.mp hid
  exact h.issued k e hget id hid

/-- Entries under different keys share no id, and the keys of a table are different. -/
theorem WellFormed.nodup_ids (h : WellFormed d) : d.ids.Nodup := by
  rw [ids, Dictionary.values, List.flatMap_map, List.nodup_flatMap]
  have hget : ∀ entry ∈ d.groups.entries, d.groups.get? entry.1 = some entry.2 :=
    fun entry hentry => Dictionary.get?_eq_some_iff.mpr hentry
  refine ⟨fun entry hentry => h.nodup _ _ (hget entry hentry), ?_⟩
  apply d.groups.sorted.imp_of_mem
  intro entry entry' hentry hentry' hlt id hid hid'
  have hne : entry.1 ≠ entry'.1 := fun heq => String.lt_irrefl _ (heq ▸ hlt)
  exact h.disjoint _ _ _ _ (hget entry hentry) (hget entry' hentry') hne id hid hid'

end Ids

/-! ## Failed calls -/

theorem client_of_error {d : Directory} {c : Call} {f : Failure}
    (h : (client c d).1 = .error f) : ∃ calls lastId, d.lastId ≤ lastId ∧
      (client c d).2 = { d with calls := calls, lastId := lastId } := by
  obtain ⟨groups, calls, lastId, hle, heq⟩ := client_eq c d
  have hgroups := groups_client_of_error h
  rw [heq] at hgroups ⊢
  subst hgroups
  exact ⟨calls, lastId, hle, rfl⟩

/-- In every directory that can be built, groups stand under their addresses in small letters, no
two groups or members have one id, and every id is the decimal text of a number from one to the last
one given out. A call that fails, for whatever reason, leaves every group with its members and its
settings, and what the directory was told to fail at; it may be recorded and use up ids. -/
theorem reachable_identities {d : Directory} (hd : Reachable d) :
    (∀ k e, d.groups.get? k = some e → k = Text.lower e.group.email) ∧
    d.ids.Nodup ∧
    (∀ id ∈ d.ids, ∃ n, 1 ≤ n ∧ n ≤ d.lastId ∧ id = toString n) ∧
    ∀ (c : Call) (f : Failure), (client c d).1 = .error f → ∃ calls lastId, d.lastId ≤ lastId ∧
      (client c d).2 = { d with calls := calls, lastId := lastId } := by
  have hwell := hd.wellFormed
  refine ⟨hwell.keyed, hwell.nodup_ids, ?_, ?_⟩
  · intro id hid
    exact hwell.issued_of_mem_ids hid
  · intro c f hfailed
    exact client_of_error hfailed

/-- A group that was put in place of another one whose address differs in capitals, with a member
who was then inserted again in vain. -/
def replacedDirectory : Directory :=
  (client (.insertMember "team@x.io" ⟨"", "ann@x.io", .manager⟩)
    (((empty.withGroup "team@x.io" "" "").withGroup "Team@X.io" "" "").withMember "TEAM@x.io"
      "ann@x.io" .owner).2).2

/-- The ids of the group that is gone and of the failed insertion are not used again. Another failed
insertion uses up a fifth one. -/
theorem replacedDirectory_identities :
    Reachable replacedDirectory ∧ replacedDirectory.ids = ["2", "3"] ∧
    replacedDirectory.lastId = 4 ∧ replacedDirectory.ids.Nodup ∧
    ∃ calls lastId, replacedDirectory.lastId ≤ lastId ∧
      (client (.insertMember "gone@x.io" ⟨"", "bob@x.io", .member⟩) replacedDirectory).2 =
        { replacedDirectory with calls := calls, lastId := lastId } := by
  have hreachable : Reachable replacedDirectory :=
    .call _ (.withMember _ _ _ (.withGroup _ _ _ (.withGroup _ _ _ .empty)))
  obtain ⟨-, hnodup, -, hfailed⟩ := reachable_identities hreachable
  have hreply : (client (.insertMember "gone@x.io" ⟨"", "bob@x.io", .member⟩)
      replacedDirectory).1 = .error (groupNotFound "gone@x.io") := rfl
  exact ⟨hreachable, by decide +kernel, by decide +kernel, hnodup, hfailed _ _ hreply⟩

end GroupKeeper.Directory
