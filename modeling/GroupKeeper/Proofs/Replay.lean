import GroupKeeper.Proofs.Program

/-! States as what calls lead to. A client that notes the calls it answers can be stopped at any
moment: the calls noted so far, made again one after another, lead to the state it is in. -/

namespace GroupKeeper

variable {α σ : Type}

/-- The state after calls, one after another. -/
def Client.after (client : Client σ) (calls : List Call) (s : σ) : σ :=
  calls.foldl (fun s c => (client c s).2) s

section After

variable (client : Client σ) (s : σ)

@[simp] theorem Client.after_nil : client.after [] s = s :=
  rfl

@[simp] theorem Client.after_cons (c : Call) (calls : List Call) :
    client.after (c :: calls) s = client.after calls (client c s).2 :=
  rfl

@[simp] theorem Client.after_append (calls calls' : List Call) :
    client.after (calls ++ calls') s = client.after calls' (client.after calls s) :=
  List.foldl_append

variable {client s} in
/-- What every single call keeps, calls one after another keep. -/
theorem Client.after_invariant {I : σ → Prop} {calls : List Call}
    (hstep : ∀ c ∈ calls, ∀ s, I s → I (client c s).2) (hs : I s) : I (client.after calls s) := by
  induction calls generalizing s with
  | nil => exact hs
  | cons c calls ih =>
      obtain ⟨hc, hrest⟩ := List.forall_mem_cons.mp hstep
      exact ih hrest (hc s hs)

end After

/-- The calls noted since a state all satisfy a condition, and they lead to the present state. -/
structure Noted (client : Client σ) (P : Call → Prop) (s : σ) (t : σ × List Call) : Prop where
  state : t.1 = client.after t.2 s
  calls : ∀ c ∈ t.2, P c

section Noted

variable {client : Client σ} {P : Call → Prop} {s : σ} {t : σ × List Call}

theorem Noted.nil : Noted client P s (s, []) :=
  ⟨rfl, by simp⟩

theorem Noted.call (h : Noted client P s t) {c : Call} (hc : P c) :
    Noted client P s (client.recorded c t).2 := by
  constructor
  · simp [Client.recorded, h.state]
  · intro c' hc'
    rcases List.mem_append.mp hc' with hc' | hc'
    · exact h.calls c' hc'
    · obtain rfl := List.mem_singleton.mp hc'
      exact hc

theorem Noted.run (h : Noted client P s t) {p : Program α} (hp : p.AllCalls P) :
    Noted client P s (p.run client.recorded t).state :=
  hp.run_invariant (fun _ _ hc ht => ht.call hc) h

end Noted

end GroupKeeper
