import GroupKeeper.Proofs.Schedule

/-! The events of scheduled jobs. Events before a lookup are logged when a job starts, so that those
of several jobs mix. All other events come in the order of the jobs, however many places there are
and however long a lookup takes. -/

namespace GroupKeeper

variable {α β σ : Type}

namespace Program

/-- The events that a program logs before its first call. -/
def leading : Program α → List Event
  | log e p => e :: p.leading
  | _ => []

@[simp] theorem leading_afterLogs (p : Program α) : p.afterLogs.leading = [] := by
  induction p with
  | done a => rfl
  | log e p ih => exact ih
  | call c k => rfl

theorem events_run_eq (client : Client σ) (p : Program α) (s : σ) :
    (p.run client s).events = p.leading ++ (p.afterLogs.run client s).events := by
  induction p with
  | done a => rfl
  | log e p ih => exact congrArg (List.cons e) ih
  | call c k => rfl

theorem LooksFirst.events_runToLookup {client : Client σ} {p : Program α} (h : LooksFirst p)
    (s : σ) : (p.runToLookup client s).events = p.leading := by
  induction h with
  | done a => rfl
  | log e _ ih => exact congrArg (List.cons e) ih
  | call k hc => simp [runToLookup, leading, hc]

/-- The events of programs that run one after another. -/
def endEvents (client : Client σ) : List (Program α) → σ → List Event
  | [], _ => []
  | p :: ps, s => (p.run client s).events ++ endEvents client ps (p.run client s).state

section EndEvents

variable (client : Client σ) (ps qs : List (Program α)) (s : σ)

@[simp] theorem endEvents_cons (p : Program α) :
    endEvents client (p :: ps) s =
      (p.run client s).events ++ endEvents client ps (p.run client s).state :=
  rfl

theorem endEvents_append :
    endEvents client (ps ++ qs) s =
      endEvents client ps s ++ endEvents client qs (endState client ps s) := by
  induction ps generalizing s with
  | nil => rfl
  | cons p ps ih => simp [ih]

theorem events_run_sequence : ((sequence ps).run client s).events = endEvents client ps s := by
  induction ps generalizing s with
  | nil => rfl
  | cons p ps ih => simp [sequence, run_bind, ih]

variable {ps} in
/-- Whoever does not look at what jobs log before their first call sees what they log from then
on. -/
theorem filterMap_endEvents_afterLogs {f : Event → Option β}
    (hleading : ∀ p ∈ ps, p.leading.filterMap f = []) :
    (endEvents client (ps.map afterLogs) s).filterMap f = (endEvents client ps s).filterMap f := by
  induction ps generalizing s with
  | nil => rfl
  | cons p ps ih =>
      obtain ⟨hp, hrest⟩ := List.forall_mem_cons.mp hleading
      have hevents : (p.run client s).events.filterMap f =
          (p.afterLogs.run client s).events.filterMap f := by
        rw [events_run_eq, List.filterMap_append, hp, List.nil_append]
      rw [List.map_cons, endEvents_cons, endEvents_cons, List.filterMap_append,
        List.filterMap_append, state_run_afterLogs, ih _ hrest, hevents]

end EndEvents

end Program

namespace Reconcile.Schedule

open Program

/-- A job that makes no call shows nothing to whoever does not look at what it logs. -/
theorem filterMap_endEvents_insert (client : Client σ) {f : Event → Option β}
    {front back : List (Program α)} {p : Program α} {a : α} (hp : p.afterLogs = done a)
    (hleading : p.leading.filterMap f = []) (s : σ) :
    (endEvents client (front ++ p :: back) s).filterMap f =
      (endEvents client (front ++ back) s).filterMap f := by
  have hstate : ∀ t, (p.run client t).state = t := by
    intro t
    rw [← state_run_afterLogs, hp]
    rfl
  have hevents : ∀ t, (p.run client t).events = p.leading := by
    intro t
    rw [events_run_eq, hp]
    exact List.append_nil _
  simp only [endEvents_append, endEvents_cons, hstate, hevents, List.filterMap_append, hleading,
    List.nil_append]

/-- Seen without what the jobs log before their lookup, the events of a run that ends are those of
the jobs in their order. -/
theorem InOrder.events {client : Client σ} {delay : Nat} {deadline : Option Nat}
    {s : Schedule σ α} {jobs : List (Program α)} {f : Event → Option β} (h : InOrder delay s jobs)
    (hleading : ∀ p ∈ jobs, p.leading.filterMap f = [])
    (hend : (s.run client delay deadline).2 = true) :
    (s.run client delay deadline).1.events.filterMap f =
      s.events.filterMap f ++ (endEvents client jobs s.state).filterMap f := by
  -- What was logged so far, followed by what the jobs have left in their order, stays the same from
  -- one turn to the next.
  fun_induction Schedule.run client delay deadline s generalizing jobs with
  | case1 s p ready hready hdelay ih =>
      obtain ⟨started, hrest, rfl, -, hlooks⟩ := h.of_start hready
      have hnone : s.waiting = [] := h.prompt hdelay
      have hothers : ∀ q ∈ s.waiting.map (·.2) ++ (started ++ s.queued),
          q.leading.filterMap f = [] := by
        intro q hq
        rw [hnone] at hq hleading
        exact hleading q (List.mem_cons_of_mem p hq)
      rw [ih (h.finish_start hrest hlooks _) hothers hend, hnone]
      simp [Schedule.finish]
  | case2 s p ready hready hdelay out a hout =>
      rename_i ih
      obtain ⟨started, hrest, rfl, hp, hlooks⟩ := h.of_start hready
      have hsilent : p.afterLogs = done a := by rw [← hp.value_runToLookup, hout]
      have hstate : out.state = s.state := hp.state_runToLookup s.state
      have hevents : out.events = p.leading := hp.events_runToLookup s.state
      have hnone : p.leading.filterMap f = [] := hleading p (by simp)
      have hothers : ∀ q ∈ s.waiting.map (·.2) ++ (started ++ s.queued),
          q.leading.filterMap f = [] := by
        intro q hq
        refine hleading q ?_
        rw [List.mem_append] at hq ⊢
        exact hq.imp_right (List.mem_cons_of_mem p)
      rw [ih (h.finish_start hrest hlooks _) hothers hend,
        filterMap_endEvents_insert client hsilent hnone]
      simp [Schedule.finish, hstate, hevents, hnone]
  | case3 s p ready hready hdelay out hout =>
      rename_i ih
      obtain ⟨started, hrest, rfl, hp, hlooks⟩ := h.of_start hready
      have hvalue : out.value = p.afterLogs := hp.value_runToLookup s.state
      have hstate : out.state = s.state := hp.state_runToLookup s.state
      have hevents : out.events = p.leading := hp.events_runToLookup s.state
      have hnone : p.leading.filterMap f = [] := hleading p (by simp)
      have hothers : ∀ q ∈ s.waiting.map (·.2) ++ out.value :: (started ++ s.queued),
          q.leading.filterMap f = [] := by
        intro q hq
        rcases List.mem_append.mp hq with hq | hq
        · exact hleading q (by simp [hq])
        · rcases List.mem_cons.mp hq with rfl | hq
          · simp [hvalue]
          · exact hleading q (by simp [hq])
      have hjobs : (s.waiting.map (·.2) ++ out.value :: (started ++ s.queued)).map afterLogs =
          (s.waiting.map (·.2) ++ p :: (started ++ s.queued)).map afterLogs := by
        simp [hvalue]
      rw [ih (h.suspend hrest hlooks hdelay out) hothers hend,
        ← filterMap_endEvents_afterLogs client _ hothers, hjobs,
        filterMap_endEvents_afterLogs client _ hleading]
      simp [Schedule.suspend, hstate, hevents, hnone]
  | case4 s p ready hready ih =>
      obtain ⟨rest, rfl, hrest⟩ := h.of_resume hready (p.run client s.state)
      rw [ih hrest (fun q hq => hleading q (List.mem_cons_of_mem p hq)) hend]
      simp [Schedule.finish]
  | case5 s hready hwaiting =>
      obtain ⟨resumed, started, hsplit, rfl, -, -⟩ := h.order
      obtain ⟨rfl, rfl⟩ : resumed = [] ∧ started = [] := by simpa [hready] using hsplit
      simp [hwaiting, h.filled hready hwaiting, endEvents]
  | case6 s hready first rest hwaiting instant => simp at hend
  | case7 s hready first rest hwaiting instant =>
      rename_i hlate ih
      exact ih (h.wake hready hwaiting) hleading hend

end Reconcile.Schedule

end GroupKeeper
