import GroupKeeper.Reconcile.Run
import GroupKeeper.Proofs.Interleaving
import GroupKeeper.Proofs.Directory.Renaming

/-! A group that is reconciled alone, and the same group reconciled amid calls about others. What
the two jobs know of the group is the same but for the ids, so they decide alike and fail alike. -/

namespace GroupKeeper

open Directory Program

namespace Directory

/-- What is known of a renaming and of the directory that serves one program alone. -/
abbrev Known := (String → String) → Directory → Prop

/-- Where one program runs alone, and the other one amid calls about other groups, the group under
an address stays mirrored; what is known at first decides what is known of the two values. -/
def Couples {α : Type} (n : Nat) (a : String) (P : Known) (p q : Program α)
    (Q : α → α → Known) : Prop :=
  ∀ ρ d t v u, Mirrors n ρ a d t → P ρ d → q.Amid client (Elsewhere a) t v u →
    ∃ ρ', Mirrors n ρ' a (p.run client d).state u ∧
      Q (p.run client d).value v ρ' (p.run client d).state

/-- Nothing is known. -/
def Anything : Known :=
  fun _ _ => True

/-- The values are the same, and something is known still. -/
def Alike {α : Type} (P : Known) (v w : α) : Known :=
  fun ρ d => v = w ∧ P ρ d

section Couples

variable {α β : Type} {n : Nat} {a : String} {P S : Known} {p q : Program α} {Q : α → α → Known}
  {R : β → β → Known}

theorem Couples.pure {v w : α} (h : ∀ ρ d, P ρ d → Q v w ρ d) :
    Couples n a P (Pure.pure v) (Pure.pure w) Q := by
  rintro ρ d t _ u hmirrors hP ⟨rfl, hu⟩
  exact ⟨ρ, hmirrors.elsewhere hu, h ρ d hP⟩

theorem Couples.done (v : α) : Couples n a P (Pure.pure v) (Pure.pure v) (Alike P) :=
  .pure fun _ _ hP => ⟨rfl, hP⟩

theorem Couples.log (e e' : Event) (h : Couples n a P p q Q) :
    Couples n a P (Program.log e p) (Program.log e' q) Q :=
  h

theorem Couples.bind {f f' : α → Program β} (hp : Couples n a P p q Q)
    (hf : ∀ v w, Couples n a (Q v w) (f v) (f' w) R) : Couples n a P (p >>= f) (q >>= f') R := by
  intro ρ d t w u hmirrors hP h
  obtain ⟨v, x, hv, hw⟩ := amid_bind h
  obtain ⟨ρ', hmirrors', hQ⟩ := hp ρ d t v x hmirrors hP hv
  rw [run_bind]
  exact hf _ _ ρ' _ x w u hmirrors' hQ hw

theorem Couples.bind_alike {f f' : α → Program β} (hp : Couples n a P p q (Alike S))
    (hf : ∀ v, Couples n a S (f v) (f' v) R) : Couples n a P (p >>= f) (q >>= f') R := by
  refine hp.bind fun v w ρ d t x u hmirrors hS => ?_
  obtain ⟨rfl, hS⟩ := hS
  exact hf v ρ d t x u hmirrors hS

theorem Couples.mono {P' : Known} {Q' : α → α → Known} (h : Couples n a P p q Q)
    (hP : ∀ ρ d, P' ρ d → P ρ d) (hQ : ∀ v w ρ d, Q v w ρ d → Q' v w ρ d) :
    Couples n a P' p q Q' := by
  intro ρ d t v u hmirrors hP' hq
  obtain ⟨ρ', hmirrors', hQv⟩ := h ρ d t v u hmirrors (hP ρ d hP') hq
  exact ⟨ρ', hmirrors', hQ _ _ _ _ hQv⟩

section Calls

variable {c c' : Call} {k : Except Failure c.Reply → Program α}
  {k' : Except Failure c'.Reply → Program α}

theorem Couples.call {T : Except Failure c.Reply → Except Failure c'.Reply → Known}
    (hc : ∀ ρ d t, Mirrors n ρ a d t → P ρ d → ∃ ρ',
      Mirrors n ρ' a (client c d).2 (client c' t).2 ∧
        T (client c d).1 (client c' t).1 ρ' (client c d).2)
    (h : ∀ r r', Couples n a (T r r') (k r) (k' r') Q) :
    Couples n a P (Program.call c k) (Program.call c' k') Q := by
  rintro ρ d t v u hmirrors hP ⟨x, hx, hrest⟩
  obtain ⟨ρ', hmirrors', hT⟩ := hc ρ d x (hmirrors.elsewhere hx) hP
  exact h _ _ ρ' _ _ v u hmirrors' hT hrest

/-- A call of which only the success matters for what follows. -/
theorem Couples.change
    (hc : ∀ ρ d t, Mirrors n ρ a d t → P ρ d →
      ∃ ρ', Answered n ρ' a d t c c' ∧ S ρ' (client c d).2)
    (hok : ∀ u u', Couples n a S (k (.ok u)) (k' (.ok u')) Q)
    (herror : ∀ f, Couples n a S (k (.error f)) (k' (.error f)) Q) :
    Couples n a P (Program.call c k) (Program.call c' k') Q := by
  refine .call (T := fun r r' ρ d => SameReply r r' ∧ S ρ d) (fun ρ d t hmirrors hP => ?_) ?_
  · obtain ⟨ρ', ⟨hmirrors', hreply⟩, hS⟩ := hc ρ d t hmirrors hP
    exact ⟨ρ', hmirrors', hreply, hS⟩
  · rintro r r' ρ d t v u hmirrors ⟨hreply, hS⟩ hq
    cases hreply with
    | ok w w' => exact hok w w' ρ d t v u hmirrors hS hq
    | error f => exact herror f ρ d t v u hmirrors hS hq

/-- A call that only asks, with something that the answers have in common. -/
theorem Couples.read {k' : Except Failure c.Reply → Program α}
    {F : Except Failure c.Reply → Except Failure c.Reply → Prop} (hc : c.isMutating = false)
    (hreply : ∀ ρ d t, Mirrors n ρ a d t → F (client c d).1 (client c t).1)
    (h : ∀ r r', F r r' → Couples n a P (k r) (k' r') Q) :
    Couples n a P (Program.call c k) (Program.call c k') Q := by
  refine .call (T := fun r r' ρ d => F r r' ∧ P ρ d) (fun ρ d t hmirrors hP => ?_) ?_
  · refine ⟨ρ, ?_, hreply ρ d t hmirrors, ?_⟩
    · rwa [client_of_read hc, client_of_read hc]
    · rwa [client_of_read hc]
  · rintro r r' ρ d t v u hmirrors ⟨hF, hP⟩ hq
    exact h r r' hF ρ d t v u hmirrors hP hq

end Calls

end Couples

end Directory

namespace Reconcile

variable {n : Nat}

/-! ## The group and its settings -/

theorem couples_createOrUpdateGroup (mode : Mode) (g : GroupSpec) :
    Couples n g.emailId Anything (createOrUpdateGroup mode g) (createOrUpdateGroup mode g)
      (Alike Anything) := by
  rw [createOrUpdateGroup, emit_bind, ask_bind]
  refine .log _ _ (.read (F := fun r r' => ∃ ρ, r' = r.map (Group.rename ρ)) rfl
    (fun ρ d t hmirrors => ⟨ρ, hmirrors.getGroup⟩) ?_)
  rintro r _ ⟨ρ, rfl⟩
  cases r with
  | error f =>
      simp only [Except.map]
      split
      · split
        · refine .log _ _ (.change (S := Anything) (fun ρ d t hmirrors _ => ?_)
            (fun u u' => .log _ _ (.done _)) fun f => .done _)
          obtain ⟨ρ', hanswered⟩ := Mirrors.insertGroup (g := wantedGroup g) hmirrors
          exact ⟨ρ', hanswered, trivial⟩
        · exact .log _ _ (.done _)
      · exact .done _
  | ok current =>
      have hdiffers : differs g (current.rename ρ) = differs g current := rfl
      simp only [Except.map, hdiffers]
      split
      · split
        · exact .log _ _ (.change (S := Anything)
            (fun ρ d t hmirrors _ => ⟨ρ, hmirrors.updateGroup (wantedGroup g), trivial⟩)
            (fun u u' => .log _ _ (.done _)) fun f => .done _)
        · exact .log _ _ (.done _)
      · exact .done _

theorem couples_warnUnknown {P : Known} {a : String} (group : String) (keys : List String) :
    Couples n a P (warnUnknown group keys) (warnUnknown group keys) (Alike P) := by
  induction keys with
  | nil => exact .done _
  | cons key keys ih => exact .log _ _ ih

theorem couples_updateSettings (mode : Mode) (g : GroupSpec) :
    Couples n g.emailId Anything (updateSettings mode g) (updateSettings mode g)
      (Alike Anything) := by
  rw [updateSettings, emit_bind, ask_bind]
  refine .log _ _ (.read (F := fun r r' => r' = r) rfl
    (fun ρ d t hmirrors => hmirrors.getSettings) ?_)
  rintro _ r rfl
  cases r with
  | error f =>
      simp only
      split
      · exact .log _ _ (.done _)
      · exact .done _
  | ok current =>
      refine (couples_warnUnknown _ _).bind_alike fun _ => ?_
      split
      · exact .log _ _ (.done _)
      · split
        · exact .change (S := Anything)
            (fun ρ d t hmirrors _ => ⟨ρ, hmirrors.patchSettings _, trivial⟩)
            (fun u u' => .log _ _ (.done _)) fun f => .done _
        · exact .log _ _ (.done _)

/-! ## Listed members -/

/-- Members that were listed on both sides, all of whom are there still. -/
structure Listed (a : String) (ms ms' : List Member) (ρ : String → String) (d : Directory) :
    Prop where
  renamed : ms' = ms.map (Member.rename ρ)
  present : ∀ m ∈ ms, (d.member? a m.id).isSome
  distinct : (ms.map (·.id)).Nodup

/-- The two answers to listing the members of a group. -/
inductive SameListing (a : String) :
    Except Failure (Option (List Member)) → Except Failure (Option (List Member)) → Known
  | error (f : Failure) (ρ : String → String) (d : Directory) :
      SameListing a (.error f) (.error f) ρ d
  | missing (ρ : String → String) (d : Directory) : SameListing a (.ok none) (.ok none) ρ d
  | listed {ms ms' : List Member} {ρ : String → String} {d : Directory} :
      Listed a ms ms' ρ d → SameListing a (.ok (some ms)) (.ok (some ms')) ρ d

section Listed

variable {a : String} {ms ms' : List Member} {m m' : Member} {ρ : String → String}
  {d t : Directory}

theorem Listed.insertMember (h : Listed a ms ms' ρ d) (hmirrors : Mirrors n ρ a d t) (m : Member) :
    ∃ ρ', Answered n ρ' a d t (.insertMember a m) (.insertMember a m) ∧
      Listed a ms ms' ρ' (client (.insertMember a m) d).2 := by
  obtain ⟨ρ', hsame, hanswered⟩ := hmirrors.insertMember m
  refine ⟨ρ', hanswered, ?_, fun x hx => ?_, h.distinct⟩
  · rw [h.renamed]
    exact map_rename_congr fun x hx =>
      (hsame _ (hmirrors.wellFormed.issued_of_member? (h.present x hx))).symm
  · obtain ⟨y, hy⟩ := Option.isSome_iff_exists.mp (h.present x hx)
    exact Option.isSome_of_eq_some ((membership a).member?_insert hmirrors.wellFormed m hy)

theorem Listed.updateMember (h : Listed a ms ms' ρ d) (hmirrors : Mirrors n ρ a d t)
    (hm : m ∈ ms) (role : Role) :
    Answered n ρ a d t (.updateMember a m.id { m with role })
        (.updateMember a (ρ m.id) { m.rename ρ with role }) ∧
      Listed a ms ms' ρ (client (.updateMember a m.id { m with role }) d).2 := by
  refine ⟨hmirrors.updateMember (h.present m hm) role, h.renamed, fun x hx => ?_, h.distinct⟩
  obtain ⟨y, hy⟩ := Option.isSome_iff_exists.mp (h.present x hx)
  have hvalid : (membership a).valid d := hmirrors.wellFormed
  by_cases hid : x.id = m.id
  · rw [hid] at hy ⊢
    exact Option.isSome_of_eq_some ((membership a).member?_update hvalid _ hy)
  · exact Option.isSome_of_eq_some (((membership a).member?_update_of_ne hvalid _ hid).trans hy)

/-- Removing a member leaves the others where they are. -/
theorem member?_deleteMember_of_ne {i j : String} (hne : j ≠ i) (d : Directory) :
    (client (.deleteMember a i) d).2.member? a j = d.member? a j := by
  simp only [client, Directory.deleteMember]
  split
  · rfl
  · next e x hmember =>
    split
    · rfl
    · rw [member?_of_find (find?_put_self ..), member?_of_find (find?_of_findMember hmember),
        List.find?_filter]
      refine List.find?_congr fun y _ => ?_
      by_cases hy : y.id = j
      · simp [hy, hne]
      · simp [hy]

theorem Listed.tail (h : Listed a (m :: ms) (m' :: ms') ρ d) : Listed a ms ms' ρ d :=
  ⟨(List.cons.inj h.renamed).2, (List.forall_mem_cons.mp h.present).2,
    (List.nodup_cons.mp h.distinct).2⟩

theorem Listed.deleteMember (h : Listed a (m :: ms) (m' :: ms') ρ d)
    (hmirrors : Mirrors n ρ a d t) :
    Answered n ρ a d t (.deleteMember a m.id) (.deleteMember a m'.id) ∧
      Listed a ms ms' ρ (client (.deleteMember a m.id) d).2 := by
  obtain ⟨rfl, rfl⟩ := List.cons.inj h.renamed
  refine ⟨hmirrors.deleteMember (h.present m (by simp)), rfl, fun x hx => ?_, h.tail.distinct⟩
  have hfresh : m.id ∉ ms.map (·.id) := (List.nodup_cons.mp h.distinct).1
  rw [member?_deleteMember_of_ne fun heq => hfresh (List.mem_map.mpr ⟨x, hx, heq⟩)]
  exact h.tail.present x hx

theorem Listed.filter (h : Listed a ms ms' ρ d) {p : Member → Bool}
    (hp : ∀ ρ m, p (m.rename ρ) = p m) : Listed a (ms.filter p) (ms'.filter p) ρ d := by
  refine ⟨?_, fun x hx => h.present x (List.mem_filter.mp hx).1,
    h.distinct.sublist (List.filter_sublist.map _)⟩
  rw [h.renamed, List.filter_map]
  exact congrArg _ (List.filter_congr fun x _ => hp ρ x)

end Listed

theorem couples_listMembers (mode : Mode) (g : GroupSpec) (activity : Activity) :
    Couples n g.emailId Anything (listMembers mode g activity) (listMembers mode g activity)
      (SameListing g.emailId) := by
  rw [listMembers, ask_bind]
  refine .call (T := fun r r' ρ d => r' = r.map (List.map (Member.rename ρ)) ∧
    ∀ ms, r = .ok ms → Listed g.emailId ms (ms.map (Member.rename ρ)) ρ d) ?_ fun r r' => ?_
  · intro ρ d t hmirrors _
    refine ⟨ρ, hmirrors, hmirrors.listMembers, fun ms hms => ⟨rfl, fun m hm => ?_, ?_⟩⟩
    · have hlisted := (membership g.emailId).listed hmirrors.wellFormed hms
      exact Option.isSome_of_eq_some ((hlisted m).mp hm)
    · cases hfind : d.find? g.emailId with
      | none => simp [client, Directory.listMembers, hfind] at hms
      | some e =>
          obtain rfl : e.members = ms := by simpa [client, Directory.listMembers, hfind] using hms
          exact hmirrors.wellFormed.nodup_members hfind
  · rintro ρ d t v u hmirrors ⟨rfl, hlisted⟩ hq
    cases r with
    | error f =>
        refine (?_ : Couples n g.emailId Anything _ _ (SameListing g.emailId)) ρ d t v u hmirrors
          trivial hq
        simp only [Except.map]
        split
        · exact .log _ _ (.pure fun ρ d _ => .missing ρ d)
        · exact .pure fun ρ d _ => .error _ ρ d
    | ok ms =>
        exact Couples.pure (P := Listed g.emailId ms _) (fun _ _ h => .listed h) ρ d t v u hmirrors
          (hlisted ms rfl) hq

/-! ## Placing addresses -/

section Placing

variable {a : String} {P : Known} {ms ms' : List Member} {m m' : Member}

theorem couples_gather {α : Type} {act act' : α → Program Failures} {xs : List α}
    (h : ∀ x ∈ xs, Couples n a P (act x) (act' x) (Alike P)) :
    Couples n a P (gather act xs) (gather act' xs) (Alike P) := by
  induction xs with
  | nil => exact .done _
  | cons x xs ih =>
      obtain ⟨hx, hrest⟩ := List.forall_mem_cons.mp h
      refine hx.bind_alike fun first => (ih hrest).bind_alike fun rest => ?_
      exact .pure fun _ _ hP => ⟨rfl, hP⟩

theorem couples_addMember (mode : Mode) (g : GroupSpec) (role : Role) (email : String) :
    Couples n g.emailId (Listed g.emailId ms ms') (addMember mode g role email)
      (addMember mode g role email) (Alike (Listed g.emailId ms ms')) := by
  simp only [addMember]
  split
  · exact .log _ _ (.change (fun ρ d t hmirrors h => h.insertMember hmirrors _)
      (fun u u' => .log _ _ (.done _)) fun f => .done _)
  · exact .log _ _ (.done _)

theorem couples_changeRole (mode : Mode) (g : GroupSpec) (role : Role) (email : String)
    (hm : m ∈ ms) :
    Couples n g.emailId (fun ρ d => m' = m.rename ρ ∧ Listed g.emailId ms ms' ρ d)
      (changeRole mode g role email m) (changeRole mode g role email m')
      (Alike (Listed g.emailId ms ms')) := by
  simp only [changeRole]
  split
  · refine .log _ _ (.change (fun ρ d t hmirrors h => ?_)
      (fun u u' => .log _ _ (.done _)) fun f => .done _)
    rw [h.1]
    exact ⟨ρ, h.2.updateMember hmirrors hm role⟩
  · exact .log _ _ (.pure fun _ _ h => ⟨rfl, h.2⟩)

theorem couples_placeMember (mode : Mode) (g : GroupSpec) (role : Role) (email : String) :
    Couples n g.emailId (Listed g.emailId ms ms') (placeMember mode g role ms email)
      (placeMember mode g role ms' email) (Alike (Listed g.emailId ms ms')) := by
  intro ρ d t v u hmirrors h hq
  -- Whether a member is meant depends on the address, so both sides find the same one.
  have hfind : ms'.find? (Email.equals ·.email email) =
      (ms.find? (Email.equals ·.email email)).map (Member.rename ρ) := by
    rw [h.renamed, List.find?_map]
    rfl
  rw [placeMember, hfind] at hq
  rw [placeMember]
  cases hfirst : ms.find? (Email.equals ·.email email) with
  | none =>
      rw [hfirst] at hq
      exact couples_addMember mode g role email ρ d t v u hmirrors h hq
  | some m =>
      rw [hfirst] at hq
      simp only [Option.map_some] at hq ⊢
      have hsame : (m.rename ρ).role = m.role := rfl
      by_cases hrole : m.role = role
      · rw [if_pos (hsame.trans hrole)] at hq
        rw [if_pos hrole]
        exact Couples.done _ ρ d t v u hmirrors h hq
      · rw [if_neg fun heq => hrole (hsame.symm.trans heq)] at hq
        rw [if_neg hrole]
        exact couples_changeRole mode g role email (List.mem_of_find?_eq_some hfirst) ρ d t v u
          hmirrors ⟨rfl, h⟩ hq

/-- What is done with the members that are listed, where there are any to list. -/
theorem couples_listMembers_bind {f : List Member → Program Failures} (mode : Mode) (g : GroupSpec)
    (activity : Activity)
    (h : ∀ ms ms', Couples n g.emailId (Listed g.emailId ms ms') (f ms) (f ms')
      (Alike Anything)) :
    Couples n g.emailId Anything
      (listMembers mode g activity >>= fun listed => match listed with
        | .error e => Pure.pure (Failures.of e)
        | .ok none => Pure.pure .none
        | .ok (some current) => f current)
      (listMembers mode g activity >>= fun listed => match listed with
        | .error e => Pure.pure (Failures.of e)
        | .ok none => Pure.pure .none
        | .ok (some current) => f current)
      (Alike Anything) := by
  refine (couples_listMembers mode g activity).bind fun v w ρ d t x u hmirrors hlisting hq => ?_
  cases hlisting with
  | error e =>
      exact Couples.done _ ρ d t x u hmirrors trivial hq
  | missing =>
      exact Couples.done _ ρ d t x u hmirrors trivial hq
  | listed hlisted => exact h _ _ ρ d t x u hmirrors hlisted hq

theorem couples_addOrUpdateMembers (mode : Mode) (g : GroupSpec) (role : Role)
    (emails : List String) :
    Couples n g.emailId Anything (addOrUpdateMembers mode g role emails)
      (addOrUpdateMembers mode g role emails) (Alike Anything) := by
  refine .log _ _ (couples_listMembers_bind mode g .addingMembers fun ms ms' => ?_)
  refine (couples_gather fun email _ => couples_placeMember mode g role email).mono
    (fun _ _ h => h) fun _ _ _ _ h => ⟨h.1, trivial⟩

end Placing

/-! ## Removing members -/

section Removing

variable {ms ms' : List Member}

theorem couples_removeMember (mode : Mode) (g : GroupSpec) (m : Member) (ρ : String → String) :
    Couples n g.emailId (Listed g.emailId (m :: ms) (m.rename ρ :: ms')) (removeMember mode g m)
      (removeMember mode g (m.rename ρ)) (Alike (Listed g.emailId ms ms')) := by
  simp only [removeMember, Member.email_rename, Member.role_rename]
  split
  · exact .log _ _ (.change (fun ρ d t hmirrors h => ⟨ρ, h.deleteMember hmirrors⟩)
      (fun u u' => .log _ _ (.done _)) fun f => .done _)
  · exact .log _ _ (.pure fun _ _ h => ⟨rfl, h.tail⟩)

/-- Whoever is yet to be removed is there still, as the ids are different. -/
theorem couples_removeEach (mode : Mode) (g : GroupSpec) (ms ms' : List Member) :
    Couples n g.emailId (Listed g.emailId ms ms') (gather (removeMember mode g) ms)
      (gather (removeMember mode g) ms') (Alike Anything) := by
  induction ms generalizing ms' with
  | nil =>
      intro ρ d t v u hmirrors h hq
      obtain rfl := h.renamed
      exact Couples.done _ ρ d t v u hmirrors trivial hq
  | cons m ms ih =>
      intro ρ d t v u hmirrors h hq
      obtain rfl := h.renamed
      refine ((couples_removeMember mode g m ρ).bind_alike fun first => ?_) ρ d t v u hmirrors h hq
      refine (ih _).bind_alike fun rest => ?_
      exact .done _

theorem couples_removeUnlisted {removable : Member → Bool}
    (hremovable : ∀ ρ m, removable (m.rename ρ) = removable m) (mode : Mode) (g : GroupSpec)
    (keep : List String) :
    Couples n g.emailId Anything (removeUnlisted mode g keep removable)
      (removeUnlisted mode g keep removable) (Alike Anything) := by
  refine couples_listMembers_bind mode g .removingMembers fun ms ms' => ?_
  refine (couples_removeEach mode g _ _).mono (fun ρ d h => h.filter fun ρ m => ?_)
    fun _ _ _ _ h => h
  rw [hremovable, Member.email_rename]

theorem couples_removeOthers (mode : Mode) (g : GroupSpec) :
    Couples n g.emailId Anything (removeOthers mode g) (removeOthers mode g) (Alike Anything) := by
  rw [removeOthers]
  split
  · exact .log _ _ (couples_removeUnlisted (fun _ _ => rfl) mode g _)
  · exact .log _ _ (couples_removeUnlisted (fun _ _ => rfl) mode g _)

end Removing

/-! ## One group -/

/-- Reconciling a group amid calls about others does what reconciling it alone does. -/
theorem couples_reconcileGroup (mode : Mode) (g : GroupSpec) :
    Couples n g.emailId Anything (reconcileGroup mode g) (reconcileGroup mode g)
      (Alike Anything) := by
  rw [reconcileGroup]
  split
  · exact .done _
  · refine (couples_createOrUpdateGroup mode g).bind_alike fun _ => ?_
    refine (couples_updateSettings mode g).bind_alike fun _ => ?_
    refine (couples_addOrUpdateMembers mode g .owner _).bind_alike fun _ => ?_
    refine (couples_addOrUpdateMembers mode g .manager _).bind_alike fun _ => ?_
    refine (couples_addOrUpdateMembers mode g .member _).bind_alike fun _ => ?_
    refine (couples_removeOthers mode g).bind_alike fun _ => ?_
    exact .done _

end Reconcile

end GroupKeeper
