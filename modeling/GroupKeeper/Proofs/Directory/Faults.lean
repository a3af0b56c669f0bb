import GroupKeeper.Proofs.Directory.Changes

/-! Programs over a directory that may have been told to fail. A triple `Leaves d₀ a P p Q` speaks
of all directories that were told to fail at the same as `d₀`: if what stands under the address `a`
satisfies `P`, the value of the program and what stands there afterwards satisfy `Q`. -/

namespace GroupKeeper.Directory

def Leaves {α : Type} (d₀ : Directory) (a : String) (P : Option DirectoryEntry → Prop)
    (p : Program α) (Q : α → Option DirectoryEntry → Prop) : Prop :=
  ∀ d, WellFormed d → SameFaults d₀ d → P (d.find? a) →
    Q (p.run client d).value ((p.run client d).state.find? a)

section Leaves

variable {α β : Type} {d₀ d : Directory} {a : String} {P : Option DirectoryEntry → Prop}
  {Q : α → Option DirectoryEntry → Prop} {R : β → Option DirectoryEntry → Prop}

theorem WellFormed.run (h : WellFormed d) (p : Program α) :
    WellFormed (p.run Directory.client d).state :=
  Program.run_invariant (fun c _ hd => hd.client c) p h

theorem sameFaults_run (p : Program α) (d : Directory) :
    SameFaults d (p.run client d).state :=
  Program.run_invariant (fun c s hs => hs.trans (sameFaults_client c s)) p (.refl d)

theorem Leaves.pure {a' : α} (h : ∀ o, P o → Q a' o) : Leaves d₀ a P (Pure.pure a') Q :=
  fun _ _ _ hP => h _ hP

theorem Leaves.log {p : Program α} (event : Event) (h : Leaves d₀ a P p Q) :
    Leaves d₀ a P (Program.log event p) Q :=
  h

theorem Leaves.bind {p : Program α} {f : α → Program β} (hp : Leaves d₀ a P p Q)
    (hf : ∀ v, Leaves d₀ a (Q v) (f v) R) : Leaves d₀ a P (p >>= f) R := by
  intro d hd hfaults hP
  rw [Program.run_bind]
  exact hf _ _ (hd.run p) (hfaults.trans (sameFaults_run p d)) (hp d hd hfaults hP)

/-- What is known of the value by itself can be used for what follows. -/
theorem Leaves.bind_fact {p : Program α} {f : α → Program β} {fact : α → Prop}
    {S : Option DirectoryEntry → Prop} (hp : Leaves d₀ a P p fun v o => fact v ∧ S o)
    (hf : ∀ v, fact v → Leaves d₀ a S (f v) R) : Leaves d₀ a P (p >>= f) R :=
  hp.bind fun v d hd hfaults h => hf v h.1 d hd hfaults h.2

theorem Leaves.mono {p : Program α} {Q' : α → Option DirectoryEntry → Prop}
    (h : Leaves d₀ a P p Q) (hQ : ∀ v o, Q v o → Q' v o) : Leaves d₀ a P p Q' :=
  fun d hd hfaults hP => hQ _ _ (h d hd hfaults hP)

/-- Whatever the entry was, as long as it is one of those that are allowed for. -/
theorem Leaves.of_exists {ι : Type} {entry : ι → DirectoryEntry} {A : ι → Prop} {p : Program α}
    (h : ∀ i, A i → Leaves d₀ a (· = some (entry i)) p Q) :
    Leaves d₀ a (fun o => ∃ i, o = some (entry i) ∧ A i) p Q := by
  rintro d hd hfaults ⟨i, hfind, hi⟩
  exact h i hi d hd hfaults hfind

theorem Leaves.of_quiet {p : Program α} {v : α}
    (h : ∀ d, SameFaults d₀ d → P (d.find? a) → Program.Quiet client p d v) :
    Leaves d₀ a P p fun w o => w = v ∧ P o := by
  intro d _ hfaults hP
  rw [(h d hfaults hP).state]
  exact ⟨(h d hfaults hP).value, hP⟩

/-- A call that changes nothing and whose answer is known. -/
theorem Leaves.read {c : Call} {k : Except Failure c.Reply → Program β}
    {reply : Except Failure c.Reply} (hc : c.isMutating = false)
    (hreply : ∀ d, SameFaults d₀ d → P (d.find? a) → (client c d).1 = reply)
    (h : Leaves d₀ a P (k reply) R) : Leaves d₀ a P (Program.call c k) R := by
  intro d hd hfaults hP
  rw [Program.run_call, hreply d hfaults hP, client_of_read hc]
  exact h d hd hfaults hP

/-- A call that succeeds and whose effect on the group is known. -/
theorem Leaves.change {c : Call} {k : Except Failure c.Reply → Program β}
    {S : Option DirectoryEntry → Prop}
    (hc : ∀ d, P (d.find? a) → (∃ u, (client c d).1 = .ok u) ∧ S ((client c d).2.find? a))
    (h : ∀ u, Leaves d₀ a S (k (.ok u)) R) : Leaves d₀ a P (Program.call c k) R := by
  intro d hd hfaults hP
  obtain ⟨⟨u, hu⟩, hS⟩ := hc d hP
  rw [Program.run_call, hu]
  exact h u _ (hd.client c) (hfaults.trans (sameFaults_client c d)) hS

theorem Ensures.of_leaves {p : Program α} {v : α} {Q : Option DirectoryEntry → Prop}
    (h : ∀ d₀, Faultless d₀ → Leaves d₀ a P p fun w o => w = v ∧ Q o) : Ensures a P p v Q :=
  fun d hd hP => h d hd.faultless d hd.wellFormed (.refl d) hP

end Leaves

end GroupKeeper.Directory
