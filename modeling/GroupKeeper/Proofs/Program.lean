import Mathlib.Data.List.Basic
import GroupKeeper.Reconcile.Program

/-! Runs of programs. A condition on every call that a program can make bounds each of its runs,
whoever answers; an invariant that single calls keep is thereby kept by whole runs. A client can
also be made to note the calls that reach it, which changes nothing else. -/

namespace GroupKeeper

variable {α β σ : Type}

/-- A client that also notes the calls it answers. -/
def Client.recorded (client : Client σ) : Client (σ × List Call) := fun c s =>
  let (reply, state) := client c s.1
  (reply, (state, s.2 ++ [c]))

namespace Program

/-! ## Sequencing -/

@[simp] theorem pure_bind (a : α) (f : α → Program β) : (pure a >>= f) = f a :=
  rfl

@[simp] theorem emit_bind (e : Event) (f : Unit → Program β) : (emit e >>= f) = log e (f ()) :=
  rfl

@[simp] theorem ask_bind (c : Call) (f : Except Failure c.Reply → Program β) :
    (ask c >>= f) = call c f :=
  rfl

@[simp] theorem log_bind (e : Event) (p : Program α) (f : α → Program β) :
    (log e p >>= f) = log e (p >>= f) :=
  rfl

@[simp] theorem call_bind (c : Call) (k : Except Failure c.Reply → Program α) (f : α → Program β) :
    (call c k >>= f) = call c fun r => k r >>= f :=
  rfl

/-! ## Runs -/

section Runs

variable (client : Client σ) (s : σ)

@[simp] theorem run_pure (a : α) : (pure a : Program α).run client s = ⟨a, s, []⟩ :=
  rfl

@[simp] theorem run_log (e : Event) (p : Program α) :
    (log e p).run client s = { p.run client s with events := e :: (p.run client s).events } :=
  rfl

@[simp] theorem run_call (c : Call) (k : Except Failure c.Reply → Program α) :
    (call c k).run client s = (k (client c s).1).run client (client c s).2 :=
  rfl

theorem run_bind (p : Program α) (f : α → Program β) :
    (p >>= f).run client s =
      { (f (p.run client s).value).run client (p.run client s).state with
        events := (p.run client s).events ++
          ((f (p.run client s).value).run client (p.run client s).state).events } := by
  induction p generalizing s with
  | done a => rfl
  | log e p ih => simp [ih]
  | call c k ih => simp [ih]

/-- The calls that a run makes, in their order. -/
def calls (client : Client σ) : Program α → σ → List Call
  | done _, _ => []
  | log _ p, s => p.calls client s
  | call c k, s => c :: (k (client c s).1).calls client (client c s).2

@[simp] theorem calls_pure (a : α) : (pure a : Program α).calls client s = [] :=
  rfl

@[simp] theorem calls_log (e : Event) (p : Program α) :
    (log e p).calls client s = p.calls client s :=
  rfl

@[simp] theorem calls_call (c : Call) (k : Except Failure c.Reply → Program α) :
    (call c k).calls client s = c :: (k (client c s).1).calls client (client c s).2 :=
  rfl

theorem calls_bind (p : Program α) (f : α → Program β) :
    (p >>= f).calls client s =
      p.calls client s ++ (f (p.run client s).value).calls client (p.run client s).state := by
  induction p generalizing s with
  | done a => rfl
  | log e p ih => simp [ih]
  | call c k ih => simp [ih]

/-- Noting the calls leaves value, state and events as they are. -/
theorem run_recorded (p : Program α) (seen : List Call) :
    p.run client.recorded (s, seen) =
      ⟨(p.run client s).value, ((p.run client s).state, seen ++ p.calls client s),
        (p.run client s).events⟩ := by
  induction p generalizing s seen with
  | done a => simp [run, calls]
  | log e p ih => simp [ih]
  | call c k ih => simp [ih, Client.recorded]

end Runs

/-! ## Attempts -/

/-- A call with whether it failed. -/
structure Attempt where
  call : Call
  failed : Bool
  deriving DecidableEq

/-- The calls that a run makes, in their order, with whether they failed. -/
def attempts (client : Client σ) : Program α → σ → List Attempt
  | done _, _ => []
  | log _ p, s => p.attempts client s
  | call c k, s =>
    ⟨c, !(client c s).1.isOk⟩ :: (k (client c s).1).attempts client (client c s).2

section Attempts

variable {client : Client σ} {s : σ}

@[simp] theorem attempts_pure (a : α) : (pure a : Program α).attempts client s = [] :=
  rfl

@[simp] theorem attempts_log (e : Event) (p : Program α) :
    (log e p).attempts client s = p.attempts client s :=
  rfl

@[simp] theorem attempts_call (c : Call) (k : Except Failure c.Reply → Program α) :
    (call c k).attempts client s =
      ⟨c, !(client c s).1.isOk⟩ :: (k (client c s).1).attempts client (client c s).2 :=
  rfl

theorem attempts_bind (p : Program α) (f : α → Program β) :
    (p >>= f).attempts client s =
      p.attempts client s ++ (f (p.run client s).value).attempts client (p.run client s).state := by
  induction p generalizing s with
  | done a => rfl
  | log e p ih => exact ih
  | call c k ih => exact congrArg (List.cons _) (ih _)

theorem map_call_attempts (p : Program α) :
    (p.attempts client s).map (·.call) = p.calls client s := by
  induction p generalizing s with
  | done a => rfl
  | log e p ih => exact ih
  | call c k ih => exact congrArg (List.cons c) (ih _)

end Attempts

/-! ## Conditions on every call -/

/-- Every call that a program can make satisfies a condition, whatever the answers are. -/
def AllCalls (P : Call → Prop) : Program α → Prop
  | done _ => True
  | log _ p => p.AllCalls P
  | call c k => P c ∧ ∀ r, (k r).AllCalls P

section AllCalls

variable {P : Call → Prop}

@[simp] theorem allCalls_pure (a : α) : (pure a : Program α).AllCalls P :=
  trivial

@[simp] theorem allCalls_log (e : Event) (p : Program α) :
    (log e p).AllCalls P ↔ p.AllCalls P :=
  Iff.rfl

@[simp] theorem allCalls_call (c : Call) (k : Except Failure c.Reply → Program α) :
    (call c k).AllCalls P ↔ P c ∧ ∀ r, (k r).AllCalls P :=
  Iff.rfl

theorem AllCalls.bind {p : Program α} {f : α → Program β} (hp : p.AllCalls P)
    (hf : ∀ a, (f a).AllCalls P) : (p >>= f).AllCalls P := by
  induction p with
  | done a => exact hf a
  | log e p ih => exact ih hp
  | call c k ih => exact ⟨hp.1, fun r => ih r (hp.2 r)⟩

theorem AllCalls.mono {Q : Call → Prop} {p : Program α} (hp : p.AllCalls P) (h : ∀ c, P c → Q c) :
    p.AllCalls Q := by
  induction p with
  | done a => trivial
  | log e p ih => exact ih hp
  | call c k ih => exact ⟨h c hp.1, fun r => ih r (hp.2 r)⟩

theorem AllCalls.and {Q : Call → Prop} {p : Program α} (hp : p.AllCalls P) (hq : p.AllCalls Q) :
    p.AllCalls fun c => P c ∧ Q c := by
  induction p with
  | done a => trivial
  | log e p ih => exact ih hp hq
  | call c k ih => exact ⟨⟨hp.1, hq.1⟩, fun r => ih r (hp.2 r) (hq.2 r)⟩

theorem AllCalls.sequence {ps : List (Program α)} (h : ∀ p ∈ ps, p.AllCalls P) :
    (sequence ps).AllCalls P := by
  induction ps with
  | nil => trivial
  | cons p ps ih =>
      refine (h p (by simp)).bind fun a => ?_
      exact (ih fun q hq => h q (by simp [hq])).bind fun as => trivial

theorem AllCalls.attempts {client : Client σ} {p : Program α} (hp : p.AllCalls P) (s : σ) :
    ∀ a ∈ p.attempts client s, P a.call := by
  induction p generalizing s with
  | done a => simp [Program.attempts]
  | log e p ih => exact ih hp s
  | call c k ih =>
      intro a ha
      rcases List.mem_cons.mp ha with rfl | ha
      · exact hp.1
      · exact ih _ (hp.2 _) _ a ha

theorem AllCalls.calls {client : Client σ} {p : Program α} (hp : p.AllCalls P) (s : σ) :
    ∀ c ∈ p.calls client s, P c := by
  intro c hc
  rw [← map_call_attempts] at hc
  obtain ⟨a, ha, rfl⟩ := List.mem_map.mp hc
  exact hp.attempts s a ha

/-- What every single call keeps, a whole run keeps. -/
theorem AllCalls.run_invariant {client : Client σ} {I : σ → Prop} {p : Program α}
    (hp : p.AllCalls P) (hstep : ∀ c s, P c → I s → I (client c s).2) {s : σ} (hs : I s) :
    I (p.run client s).state := by
  induction p generalizing s with
  | done a => exact hs
  | log e p ih => exact ih hp hs
  | call c k ih => exact ih _ (hp.2 _) (hstep c s hp.1 hs)

end AllCalls

/-! ## The first call -/

/-- The program makes one call first, whatever the answer to it is, and then only calls that satisfy
a condition. -/
inductive AsksFirst (c : Call) (P : Call → Prop) : Program α → Prop where
  | log (e : Event) {p : Program α} : AsksFirst c P p → AsksFirst c P (log e p)
  | call {k : Except Failure c.Reply → Program α} :
      (∀ r, (k r).AllCalls P) → AsksFirst c P (call c k)

section AsksFirst

variable {P : Call → Prop} {c : Call} {p : Program α}

theorem AsksFirst.bind (h : AsksFirst c P p) {f : α → Program β} (hf : ∀ a, (f a).AllCalls P) :
    AsksFirst c P (p >>= f) := by
  induction h with
  | log e _ ih => exact .log e ih
  | call hk => exact .call fun r => (hk r).bind hf

theorem AsksFirst.allCalls (h : AsksFirst c P p) (hc : P c) : p.AllCalls P := by
  induction h with
  | log e _ ih => exact ih
  | call hk => exact ⟨hc, hk⟩

theorem AsksFirst.attempts (h : AsksFirst c P p) (client : Client σ) (s : σ) :
    ∃ rest, p.attempts client s = ⟨c, !(client c s).1.isOk⟩ :: rest ∧ ∀ x ∈ rest, P x.call := by
  induction h with
  | log e _ ih => exact ih
  | call hk => exact ⟨_, rfl, (hk _).attempts _⟩

theorem AsksFirst.calls (h : AsksFirst c P p) (client : Client σ) (s : σ) :
    ∃ rest, p.calls client s = c :: rest ∧ ∀ x ∈ rest, P x := by
  obtain ⟨rest, hattempts, hrest⟩ := h.attempts client s
  refine ⟨rest.map (·.call), ?_, ?_⟩
  · rw [← map_call_attempts, hattempts, List.map_cons]
  · intro x hx
    obtain ⟨a, ha, rfl⟩ := List.mem_map.mp hx
    exact hrest a ha

end AsksFirst

/-- The program makes one call and no other. -/
abbrev OnlyCall (c : Call) (p : Program α) : Prop :=
  AsksFirst c (fun _ => False) p

theorem OnlyCall.state {client : Client σ} {c : Call} {p : Program α} (h : OnlyCall c p) (s : σ) :
    (p.run client s).state = (client c s).2 := by
  induction h with
  | log e _ ih => exact ih
  | call hk => exact (hk _).run_invariant (I := (· = (client c s).2)) (fun _ _ hc => hc.elim) rfl

theorem OnlyCall.attempts {client : Client σ} {c : Call} {p : Program α} (h : OnlyCall c p)
    (s : σ) : p.attempts client s = [⟨c, !(client c s).1.isOk⟩] := by
  obtain ⟨rest, hattempts, hrest⟩ := AsksFirst.attempts h client s
  rw [hattempts, List.eq_nil_iff_forall_not_mem.mpr hrest]

/-! ## Invariants -/

theorem allCalls_true (p : Program α) : p.AllCalls fun _ => True := by
  induction p with
  | done a => trivial
  | log e p ih => exact ih
  | call c k ih => exact ⟨trivial, ih⟩

theorem run_invariant {client : Client σ} {I : σ → Prop} (hstep : ∀ c s, I s → I (client c s).2)
    (p : Program α) {s : σ} (hs : I s) : I (p.run client s).state :=
  p.allCalls_true.run_invariant (fun c s _ => hstep c s) hs

/-! ## Runs that change nothing -/

/-- A run that gives a value, makes no changing call, and leaves the state as it is. -/
structure Quiet (client : Client σ) (p : Program α) (s : σ) (a : α) : Prop where
  value : (p.run client s).value = a
  state : (p.run client s).state = s
  calls : ∀ c ∈ p.calls client s, c.isMutating = false

section Quiet

variable {client : Client σ} {s : σ}

theorem Quiet.pure (a : α) : Quiet client (Pure.pure a) s a :=
  ⟨rfl, rfl, by simp⟩

theorem Quiet.log {p : Program α} {a : α} (e : Event) (h : Quiet client p s a) :
    Quiet client (Program.log e p) s a :=
  ⟨h.value, h.state, h.calls⟩

theorem Quiet.call {c : Call} {k : Except Failure c.Reply → Program α} {a : α}
    (hc : c.isMutating = false) (hs : (client c s).2 = s)
    (h : Quiet client (k (client c s).1) s a) : Quiet client (Program.call c k) s a := by
  refine ⟨?_, ?_, ?_⟩
  · rw [run_call, hs, h.value]
  · rw [run_call, hs, h.state]
  · rw [calls_call, hs]
    intro d hd
    rcases List.mem_cons.mp hd with rfl | hd
    · exact hc
    · exact h.calls d hd

theorem Quiet.bind {p : Program α} {f : α → Program β} {a : α} {b : β} (hp : Quiet client p s a)
    (hf : Quiet client (f a) s b) : Quiet client (p >>= f) s b := by
  refine ⟨?_, ?_, ?_⟩
  · rw [run_bind, hp.value, hp.state, hf.value]
  · rw [run_bind, hp.value, hp.state, hf.state]
  · rw [calls_bind, hp.value, hp.state]
    intro c hc
    rcases List.mem_append.mp hc with hc | hc
    · exact hp.calls c hc
    · exact hf.calls c hc

theorem Quiet.sequence {ps : List (Program α)} {a : α} (h : ∀ p ∈ ps, Quiet client p s a) :
    Quiet client (Program.sequence ps) s (ps.map fun _ => a) := by
  induction ps with
  | nil => exact .pure _
  | cons p ps ih =>
      exact (h p (by simp)).bind ((ih fun q hq => h q (by simp [hq])).bind (.pure _))

/-- A state as it was, with the calls noted so far, none of which was meant to change anything. -/
def Untouched (s : σ) (t : σ × List Call) : Prop :=
  t.1 = s ∧ ∀ c ∈ t.2, c.isMutating = false

theorem untouched_nil (s : σ) : Untouched s (s, []) :=
  ⟨rfl, by simp⟩

theorem Quiet.recorded {p : Program α} {a : α} (h : Quiet client p s a) {t : σ × List Call}
    (ht : Untouched s t) : Untouched s (p.run client.recorded t).state := by
  obtain ⟨s', seen⟩ := t
  obtain ⟨rfl, hseen⟩ := ht
  rw [run_recorded]
  refine ⟨h.state, fun c hc => ?_⟩
  rcases List.mem_append.mp hc with hc | hc
  · exact hseen c hc
  · exact h.calls c hc

end Quiet

end Program

end GroupKeeper
