import GroupKeeper.Reconcile.Run

/-! Reconciling several groups at a time. Looking a group up takes a fixed time and everything else
takes none. At most so many groups are in flight as there are workers; the next one starts as soon
as a place is free, in the order of the list. Groups whose lookup ends at the same instant go on in
the order in which they started, each to its end. At a deadline the run is dropped where it
stands. -/

namespace GroupKeeper.Reconcile

/-- A job whose turn has come. -/
inductive Turn (α : Type) where
  /-- The job has not started. -/
  | start (p : Program α)
  /-- The time that the job's lookup takes is over. -/
  | resume (p : Program α)

/-- Whether a job has not started. -/
def Turn.isStart {α : Type} : Turn α → Bool
  | .start _ => true
  | .resume _ => false

/-- Jobs in their different states, and what has happened so far. -/
structure Schedule (σ α : Type) where
  now : Nat
  /-- Jobs without a place. -/
  queued : List (Program α)
  /-- Jobs with a place whose turn has come. -/
  ready : List (Turn α)
  /-- Jobs that wait for their lookup, with the instant of its end. -/
  waiting : List (Nat × Program α)
  /-- The values of the jobs that have ended, in the order of their ends. -/
  values : List α
  state : σ
  events : List Event

namespace Schedule

variable {σ α : Type}

/-- What is still to be done, counted so that every step makes it smaller. -/
def work (s : Schedule σ α) : Nat :=
  4 * s.queued.length + 2 * s.waiting.length
    + 2 * s.ready.countP Turn.isStart + s.ready.length

/-- Ends a job, whose place the next queued job takes. -/
def finish (s : Schedule σ α) (out : Program.Outcome σ α) : Schedule σ α :=
  { s with
    queued := s.queued.drop 1
    ready := s.ready ++ (s.queued.take 1).map .start
    values := s.values ++ [out.value]
    state := out.state
    events := s.events ++ out.events }

/-- Makes a job wait for its lookup. -/
def suspend (s : Schedule σ α) (delay : Nat) (out : Program.Outcome σ (Program α)) :
    Schedule σ α :=
  { s with
    waiting := s.waiting ++ [(s.now + delay, out.value)]
    state := out.state
    events := s.events ++ out.events }

theorem work_finish (s : Schedule σ α) (out : Program.Outcome σ α) :
    (s.finish out).work ≤ s.work := by
  obtain ⟨now, queued, ready, waiting, values, state, events⟩ := s
  cases queued with
  | nil => simp [finish, work]
  | cons p ps => simp [finish, work, Turn.isStart]; omega

theorem work_tail (s : Schedule σ α) {t : Turn α} {ready : List (Turn α)}
    (h : s.ready = t :: ready) : { s with ready }.work < s.work := by
  simp only [work, h, List.countP_cons, List.length_cons]
  omega

theorem work_suspend (s : Schedule σ α) {p : Program α} {ready : List (Turn α)} {delay : Nat}
    {out : Program.Outcome σ (Program α)} (h : s.ready = .start p :: ready) :
    ({ s with ready }.suspend delay out).work < s.work := by
  simp only [work, suspend, h, List.countP_cons, List.length_cons, List.length_append,
    List.length_nil, Turn.isStart, if_true]
  omega

/-- The first instant at which a waiting job goes on. -/
def wakeUp (first : Nat × Program α) (rest : List (Nat × Program α)) : Nat :=
  rest.foldl (fun t w => min t w.1) first.1

theorem exists_wakeUp (first : Nat × Program α) (rest : List (Nat × Program α)) :
    ∃ w ∈ first :: rest, w.1 = wakeUp first rest := by
  suffices h : ∀ (ws : List (Nat × Program α)) (t : Nat),
      ws.foldl (fun t w => min t w.1) t = t ∨
        ∃ w ∈ ws, w.1 = ws.foldl (fun t w => min t w.1) t by
    rcases h rest first.1 with h | ⟨w, hw, h⟩
    · exact ⟨first, List.mem_cons_self, h.symm⟩
    · exact ⟨w, List.mem_cons_of_mem _ hw, h⟩
  intro ws
  induction ws with
  | nil => intro t; exact .inl rfl
  | cons w ws ih =>
    intro t
    rcases ih (min t w.1) with h | ⟨v, hv, h⟩
    · simp only [List.foldl_cons, h]
      rcases Nat.le_total t w.1 with ht | ht
      · exact .inl (Nat.min_eq_left ht)
      · exact .inr ⟨w, List.mem_cons_self, (Nat.min_eq_right ht).symm⟩
    · exact .inr ⟨v, List.mem_cons_of_mem _ hv, h⟩

/-- Moves the clock to an instant: the jobs whose lookup ends then have their turn. -/
def wake (s : Schedule σ α) (instant : Nat) : Schedule σ α :=
  { s with
    now := instant
    ready := s.ready ++ (s.waiting.filter (·.1 = instant)).map fun w => .resume w.2
    waiting := s.waiting.filter (·.1 ≠ instant) }

theorem work_wake (s : Schedule σ α) {first : Nat × Program α} {rest : List (Nat × Program α)}
    (h : s.waiting = first :: rest) : (s.wake (wakeUp first rest)).work < s.work := by
  obtain ⟨w, hw, hinstant⟩ := exists_wakeUp first rest
  rw [← h] at hw
  generalize wakeUp first rest = instant at hinstant
  have hpart : ∀ ws : List (Nat × Program α),
      (ws.filter (·.1 = instant)).length + (ws.filter (·.1 ≠ instant)).length = ws.length := by
    intro ws
    induction ws with
    | nil => rfl
    | cons v vs ih =>
      by_cases hv : v.1 = instant <;> simp_all +arith
  have hpos : 0 < (s.waiting.filter (·.1 = instant)).length :=
    List.length_pos_of_mem (List.mem_filter.2 ⟨hw, by simpa using hinstant⟩)
  have hresume : (s.waiting.filter (·.1 = instant)).countP
      (Turn.isStart ∘ fun w => .resume w.2) = 0 :=
    List.countP_eq_zero.2 fun _ _ => by simp [Turn.isStart]
  have := hpart s.waiting
  simp only [work, wake, List.countP_append, List.countP_map, List.length_append, List.length_map]
  omega

/-- Runs the jobs to their ends, or to the deadline. The flag says whether all of them ended. -/
def run (client : Client σ) (delay : Nat) (deadline : Option Nat) (s : Schedule σ α) :
    Schedule σ α × Bool :=
  match _hr : s.ready with
  | .start p :: ready =>
    if delay = 0 then
      ({ s with ready }.finish (p.run client s.state)).run client delay deadline
    else
      let out := p.runToLookup client s.state
      match out.value with
      | .done a => ({ s with ready }.finish { out with value := a }).run client delay deadline
      | _ => ({ s with ready }.suspend delay out).run client delay deadline
  | .resume p :: ready => ({ s with ready }.finish (p.run client s.state)).run client delay deadline
  | [] =>
    match _hw : s.waiting with
    | [] => (s, true)
    | first :: rest =>
      let instant := wakeUp first rest
      if deadline.any (· < instant) then (s, false)
      else (s.wake instant).run client delay deadline
termination_by s.work
decreasing_by
  all_goals first
    | exact work_wake s _hw
    | exact Nat.lt_of_le_of_lt (work_finish _ _) (work_tail s _hr)
    | exact work_suspend s _hr

/-- Jobs at the start: the first ones have a place. -/
def ofJobs (workers : Nat) (jobs : List (Program α)) (state : σ) : Schedule σ α :=
  { now := 0
    queued := jobs.drop workers
    ready := (jobs.take workers).map .start
    waiting := []
    values := []
    state
    events := [] }

end Schedule

/-- What came of a run with a deadline: failures, or nothing if the run was dropped. -/
abbrev TimedOutcome (σ : Type) := Program.Outcome σ (Option Failures)

/-- Runs one program against the clock. -/
def runTimed {σ : Type} (client : Client σ) (delay : Nat) (deadline : Option Nat)
    (p : Program Failures) (state : σ) : TimedOutcome σ :=
  let (s, ended) := (Schedule.ofJobs 1 [p] state).run client delay deadline
  ⟨if ended then some (joinFailures s.values) else none, s.state, s.events⟩

/-- Reconciles groups, several at a time, and then removes the groups that are not wanted. -/
def reconcileTimed {σ : Type} (client : Client σ) (delay : Nat) (deadline : Option Nat)
    (mode : Mode) (workers : Nat) (gs : List GroupSpec) (state : σ) : TimedOutcome σ :=
  let (s, ended) :=
    (Schedule.ofJobs (flight workers gs) (jobs mode gs) state).run client delay deadline
  let events := opening workers gs ++ s.events
  if ended then
    let out := (deleteOrphans mode gs).run client s.state
    ⟨some (joinFailures s.values ++ out.value), out.state, events ++ out.events⟩
  else ⟨none, s.state, events⟩

end GroupKeeper.Reconcile
