import GroupKeeper.Proofs.Program

/-! The calls of a run that fail, with their failures. A condition on what a program makes of the
failures that it meets can be checked on the program itself: it is asked of every way in which the
calls can be answered, and then holds of each run. -/

namespace GroupKeeper

variable {α β σ : Type}

/-- A call with the failure that was the answer to it. -/
structure FailedCall where
  call : Call
  failure : Failure

/-- A call as a failed one, if its answer is a failure. -/
def FailedCall.ofReply (c : Call) : Except Failure c.Reply → List FailedCall
  | .ok _ => []
  | .error f => [⟨c, f⟩]

theorem FailedCall.eq_of_mem_ofReply {c : Call} {reply : Except Failure c.Reply} {x : FailedCall}
    (hx : x ∈ FailedCall.ofReply c reply) : x.call = c ∧ reply = .error x.failure := by
  cases reply with
  | ok r => cases hx
  | error f =>
      obtain rfl := List.mem_singleton.mp hx
      exact ⟨rfl, rfl⟩

/-- A client that also notes the calls that fail. -/
def Client.audited (client : Client σ) : Client (σ × List FailedCall) := fun c s =>
  let (reply, state) := client c s.1
  (reply, (state, s.2 ++ FailedCall.ofReply c reply))

namespace Program

/-! ## Failed calls of a run -/

/-- The calls of a run that fail, in their order. -/
def failed (client : Client σ) : Program α → σ → List FailedCall
  | done _, _ => []
  | log _ p, s => p.failed client s
  | call c k, s =>
    FailedCall.ofReply c (client c s).1 ++ (k (client c s).1).failed client (client c s).2

theorem run_audited (client : Client σ) (p : Program α) (s : σ) (noted : List FailedCall) :
    p.run client.audited (s, noted) =
      ⟨(p.run client s).value, ((p.run client s).state, noted ++ p.failed client s),
        (p.run client s).events⟩ := by
  induction p generalizing s noted with
  | done a => simp [run, failed]
  | log e p ih => simp [ih, failed]
  | call c k ih => simp [ih, Client.audited, failed]

theorem exists_reply_of_mem_failed {client : Client σ} {p : Program α} {s : σ} {x : FailedCall}
    (hx : x ∈ p.failed client s) : ∃ t, (client x.call t).1 = .error x.failure := by
  induction p generalizing s with
  | done a => simp [failed] at hx
  | log e p ih => exact ih hx
  | call c k ih =>
      rcases List.mem_append.mp hx with hx | hx
      · obtain ⟨rfl, hreply⟩ := FailedCall.eq_of_mem_ofReply hx
        exact ⟨s, hreply⟩
      · exact ih _ hx

theorem AllCalls.failed {P : Call → Prop} {p : Program α} (hp : p.AllCalls P) (client : Client σ)
    (s : σ) : ∀ x ∈ p.failed client s, P x.call := by
  induction p generalizing s with
  | done a => simp [Program.failed]
  | log e p ih => exact ih hp s
  | call c k ih =>
      intro x hx
      rcases List.mem_append.mp hx with hx | hx
      · rw [(FailedCall.eq_of_mem_ofReply hx).1]
        exact hp.1
      · exact ih _ (hp.2 _) _ x hx

theorem AsksFirst.failed {P : Call → Prop} {c : Call} {p : Program α} (h : AsksFirst c P p)
    (client : Client σ) (s : σ) :
    ∃ rest, p.failed client s = FailedCall.ofReply c (client c s).1 ++ rest ∧
      ∀ x ∈ rest, P x.call := by
  induction h with
  | log e _ ih => exact ih
  | call hk => exact ⟨_, rfl, (hk _).failed client _⟩

/-! ## All runs -/

/-- However the calls are answered, the calls that fail and the value satisfy a condition. -/
def AllRuns : Program α → (List FailedCall → α → Prop) → Prop
  | done a, P => P [] a
  | log _ p, P => p.AllRuns P
  | call c k, P => ∀ r, (k r).AllRuns fun noted a => P (FailedCall.ofReply c r ++ noted) a

@[simp] theorem allRuns_pure (a : α) (P : List FailedCall → α → Prop) :
    (pure a : Program α).AllRuns P ↔ P [] a :=
  Iff.rfl

@[simp] theorem allRuns_log (e : Event) (p : Program α) (P : List FailedCall → α → Prop) :
    (log e p).AllRuns P ↔ p.AllRuns P :=
  Iff.rfl

@[simp] theorem allRuns_call (c : Call) (k : Except Failure c.Reply → Program α)
    (P : List FailedCall → α → Prop) : (call c k).AllRuns P ↔
      ∀ r, (k r).AllRuns fun noted a => P (FailedCall.ofReply c r ++ noted) a :=
  Iff.rfl

theorem AllRuns.bind {p : Program α} {f : α → Program β} {P : List FailedCall → α → Prop}
    {Q : List FailedCall → β → Prop} (hp : p.AllRuns P)
    (hf : ∀ noted a, P noted a → (f a).AllRuns fun more b => Q (noted ++ more) b) :
    (p >>= f).AllRuns Q := by
  induction p generalizing P Q with
  | done a => exact hf [] a hp
  | log e p ih => exact ih hp hf
  | call c k ih =>
      refine fun r => ih r (hp r) fun noted a ha => ?_
      have hrest := hf _ a ha
      simp only [List.append_assoc] at hrest
      exact hrest

theorem AllRuns.mono {p : Program α} {P Q : List FailedCall → α → Prop}
    (h : ∀ noted a, P noted a → Q noted a) (hp : p.AllRuns P) : p.AllRuns Q := by
  induction p generalizing P Q with
  | done a => exact h [] a hp
  | log e p ih => exact ih h hp
  | call c k ih => exact fun r => ih r (fun noted a => h _ a) (hp r)

theorem AllRuns.run {p : Program α} {P : List FailedCall → α → Prop} (hp : p.AllRuns P)
    (client : Client σ) (s : σ) : P (p.failed client s) (p.run client s).value := by
  induction p generalizing P s with
  | done a => exact hp
  | log e p ih => exact ih hp s
  | call c k ih => exact ih _ (hp _) _

end Program

end GroupKeeper
