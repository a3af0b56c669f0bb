import Mathlib.Data.List.Perm.Basic
import GroupKeeper.Reconcile.Schedule
import GroupKeeper.Proofs.Program

/-! Jobs that look something up before they do anything else can be scheduled in any way without a
difference: whatever the number of places and the time of a lookup, the jobs take effect one after
another in the order of the list. A run that is dropped at its deadline has done the first so many
of them. -/

namespace GroupKeeper

variable {α σ : Type}

namespace Program

/-! ## Programs up to their first call -/

/-- A program without the events that it logs before its first call. -/
def afterLogs : Program α → Program α
  | log _ p => p.afterLogs
  | p => p

@[simp] theorem afterLogs_afterLogs (p : Program α) : p.afterLogs.afterLogs = p.afterLogs := by
  induction p with
  | done a => rfl
  | log e p ih => exact ih
  | call c k => rfl

theorem value_run_afterLogs (client : Client σ) (p : Program α) (s : σ) :
    (p.afterLogs.run client s).value = (p.run client s).value := by
  induction p with
  | done a => rfl
  | log e p ih => exact ih
  | call c k => rfl

theorem state_run_afterLogs (client : Client σ) (p : Program α) (s : σ) :
    (p.afterLogs.run client s).state = (p.run client s).state := by
  induction p with
  | done a => rfl
  | log e p ih => exact ih
  | call c k => rfl

/-- The first call of a program, if there is one, is a lookup. -/
inductive LooksFirst : Program α → Prop where
  | done (a : α) : LooksFirst (done a)
  | log (e : Event) {p : Program α} : LooksFirst p → LooksFirst (log e p)
  | call {c : Call} (k : Except Failure c.Reply → Program α) :
      c.isLookup = true → LooksFirst (call c k)

theorem LooksFirst.state_runToLookup {client : Client σ} {p : Program α} (h : LooksFirst p)
    (s : σ) : (p.runToLookup client s).state = s := by
  induction h with
  | done a => rfl
  | log e _ ih => exact ih
  | call k hc => simp [runToLookup, hc]

theorem LooksFirst.value_runToLookup {client : Client σ} {p : Program α} (h : LooksFirst p)
    (s : σ) : (p.runToLookup client s).value = p.afterLogs := by
  induction h with
  | done a => rfl
  | log e _ ih => exact ih
  | call k hc => simp [runToLookup, afterLogs, hc]

/-! ## One after another -/

/-- The state after programs have run one after another. -/
def endState (client : Client σ) (ps : List (Program α)) (s : σ) : σ :=
  ps.foldl (fun s p => (p.run client s).state) s

/-- The values of programs that run one after another. -/
def endValues (client : Client σ) : List (Program α) → σ → List α
  | [], _ => []
  | p :: ps, s => (p.run client s).value :: endValues client ps (p.run client s).state

section EndState

variable (client : Client σ) (ps qs : List (Program α)) (s : σ)

@[simp] theorem endState_cons (p : Program α) :
    endState client (p :: ps) s = endState client ps (p.run client s).state :=
  rfl

@[simp] theorem endValues_cons (p : Program α) :
    endValues client (p :: ps) s =
      (p.run client s).value :: endValues client ps (p.run client s).state :=
  rfl

theorem endState_append :
    endState client (ps ++ qs) s = endState client qs (endState client ps s) :=
  List.foldl_append ..

theorem endValues_append :
    endValues client (ps ++ qs) s =
      endValues client ps s ++ endValues client qs (endState client ps s) := by
  induction ps generalizing s with
  | nil => rfl
  | cons p ps ih => simp [ih]

theorem state_run_sequence : ((sequence ps).run client s).state = endState client ps s := by
  induction ps generalizing s with
  | nil => rfl
  | cons p ps ih => simp [sequence, run_bind, ih]

theorem value_run_sequence : ((sequence ps).run client s).value = endValues client ps s := by
  induction ps generalizing s with
  | nil => rfl
  | cons p ps ih => simp [sequence, run_bind, ih, state_run_sequence]

theorem endState_afterLogs : endState client (ps.map afterLogs) s = endState client ps s := by
  induction ps generalizing s with
  | nil => rfl
  | cons p ps ih => simp [ih, state_run_afterLogs]

theorem endValues_afterLogs : endValues client (ps.map afterLogs) s = endValues client ps s := by
  induction ps generalizing s with
  | nil => rfl
  | cons p ps ih => simp [ih, state_run_afterLogs, value_run_afterLogs]

end EndState

end Program

namespace Reconcile.Schedule

open Program

/-! ## The order of the jobs -/

/-- The jobs that are left, in the order in which they take effect: those whose lookup is over, then
those that wait for it, then those with a place, then the others. -/
structure InOrder (delay : Nat) (s : Schedule σ α) (jobs : List (Program α)) : Prop where
  order : ∃ resumed started, s.ready = resumed.map .resume ++ started.map .start ∧
    jobs = resumed ++ s.waiting.map (·.2) ++ started ++ s.queued ∧
    (∀ p ∈ started, LooksFirst p) ∧ (delay = 0 → resumed = [])
  looksFirst : ∀ p ∈ s.queued, LooksFirst p
  sorted : s.waiting.Pairwise fun v w => v.1 ≤ w.1
  inTime : ∀ w ∈ s.waiting, s.now ≤ w.1 ∧ w.1 ≤ s.now + delay
  prompt : delay = 0 → s.waiting = []
  filled : s.ready = [] → s.waiting = [] → s.queued = []

/-- What came of running jobs from a state: they took effect in their order, all of them if the run
was not dropped. -/
structure InSequence (client : Client σ) (deadline : Option Nat) (jobs : List (Program α))
    (state : σ) (values : List α) (out : Schedule σ α × Bool) : Prop where
  state_eq : ∃ n, out.1.state = endState client (jobs.take n) state ∧
    (out.2 = true → jobs.length ≤ n)
  values_perm : out.2 = true → out.1.values.Perm (values ++ endValues client jobs state)
  dropped : out.2 = false → deadline.isSome

section InSequence

variable {client : Client σ} {deadline : Option Nat} {jobs : List (Program α)} {state : σ}
  {values : List α} {out : Schedule σ α × Bool}

/-- The first job takes effect. -/
theorem InSequence.cons {p : Program α}
    (h : InSequence client deadline jobs (p.run client state).state
      (values ++ [(p.run client state).value]) out) :
    InSequence client deadline (p :: jobs) state values out := by
  refine ⟨?_, ?_, h.dropped⟩
  · obtain ⟨n, hstate, hall⟩ := h.state_eq
    exact ⟨n + 1, by simpa using hstate, fun hend => by simpa using hall hend⟩
  · intro hend
    simpa using h.values_perm hend

/-- A job that makes no call can end at any time. -/
theorem InSequence.insert {front back : List (Program α)} {p : Program α} {a : α}
    (hp : p.afterLogs = done a)
    (h : InSequence client deadline (front ++ back) state (values ++ [a]) out) :
    InSequence client deadline (front ++ p :: back) state values out := by
  have hstate : ∀ t, (p.run client t).state = t := by
    intro t
    rw [← state_run_afterLogs, hp]
    rfl
  have hvalue : ∀ t, (p.run client t).value = a := by
    intro t
    rw [← value_run_afterLogs, hp]
    rfl
  refine ⟨?_, ?_, h.dropped⟩
  · obtain ⟨n, hn, hall⟩ := h.state_eq
    by_cases hlt : n < front.length
    · refine ⟨n, ?_, fun hend => ?_⟩
      · rw [hn, List.take_append_of_le_length (Nat.le_of_lt hlt),
          List.take_append_of_le_length (Nat.le_of_lt hlt)]
      · have := hall hend
        simp only [List.length_append] at this
        omega
    · obtain ⟨m, rfl⟩ := Nat.exists_eq_add_of_le (Nat.le_of_not_lt hlt)
      refine ⟨front.length + (m + 1), ?_, fun hend => ?_⟩
      · rw [hn, List.take_length_add_append, List.take_length_add_append, List.take_succ_cons,
          endState_append, endState_append, endState_cons, hstate]
      · have := hall hend
        simp only [List.length_append, List.length_cons] at this ⊢
        omega
  · intro hend
    refine (h.values_perm hend).trans ?_
    simp only [endValues_append, endValues_cons, hstate, hvalue, List.append_assoc,
      List.singleton_append]
    exact List.perm_middle.symm.append_left values

/-- Only what jobs do from their first call on matters. -/
theorem InSequence.of_afterLogs {jobs' : List (Program α)}
    (hjobs : jobs.map afterLogs = jobs'.map afterLogs)
    (h : InSequence client deadline jobs' state values out) :
    InSequence client deadline jobs state values out := by
  have hlength : jobs.length = jobs'.length := by simpa using congrArg List.length hjobs
  refine ⟨?_, ?_, h.dropped⟩
  · obtain ⟨n, hn, hall⟩ := h.state_eq
    refine ⟨n, ?_, fun hend => hlength ▸ hall hend⟩
    rw [hn, ← endState_afterLogs, List.map_take, ← hjobs, ← List.map_take, endState_afterLogs]
  · intro hend
    rw [← endValues_afterLogs, hjobs, endValues_afterLogs]
    exact h.values_perm hend

end InSequence

/-! ## Steps of a schedule -/

theorem wakeUp_le (first : Nat × Program α) (rest : List (Nat × Program α)) :
    ∀ w ∈ first :: rest, wakeUp first rest ≤ w.1 := by
  suffices h : ∀ (ws : List (Nat × Program α)) (t : Nat),
      ws.foldl (fun t w => min t w.1) t ≤ t ∧
        ∀ w ∈ ws, ws.foldl (fun t w => min t w.1) t ≤ w.1 by
    intro w hw
    rcases List.mem_cons.mp hw with rfl | hw
    · exact (h rest w.1).1
    · exact (h rest first.1).2 w hw
  intro ws
  induction ws with
  | nil => intro t; exact ⟨Nat.le_refl t, by simp⟩
  | cons v ws ih =>
      intro t
      obtain ⟨hle, hall⟩ := ih (min t v.1)
      simp only [List.foldl_cons]
      refine ⟨by omega, ?_⟩
      intro w hw
      rcases List.mem_cons.mp hw with rfl | hw
      · omega
      · exact hall w hw

/-- Of jobs in the order of their instants, those of the first instant come first. -/
theorem filter_append_filter_of_sorted {instant : Nat} {ws : List (Nat × Program α)}
    (hsorted : ws.Pairwise fun v w => v.1 ≤ w.1) (hle : ∀ w ∈ ws, instant ≤ w.1) :
    ws.filter (·.1 = instant) ++ ws.filter (·.1 ≠ instant) = ws := by
  induction ws with
  | nil => rfl
  | cons v ws ih =>
      obtain ⟨hv, htail⟩ := List.pairwise_cons.mp hsorted
      by_cases heq : v.1 = instant
      · simpa [heq] using ih htail fun w hw => hle w (by simp [hw])
      · have hnone : ws.filter (·.1 = instant) = [] := by
          rw [List.filter_eq_nil_iff]
          intro w hw
          have hvw := hv w hw
          have hlev := hle v (by simp)
          simp only [decide_eq_true_eq]
          omega
        have hall : ws.filter (·.1 ≠ instant) = ws := by
          rw [List.filter_eq_self]
          intro w hw
          have hvw := hv w hw
          have hlev := hle v (by simp)
          simp only [decide_eq_true_eq]
          omega
        simp only [heq, List.filter_cons, hnone, hall, decide_false, ne_eq, not_false_eq_true,
          decide_true, if_true, Bool.false_eq_true, if_false, List.nil_append]

section InOrder

variable {client : Client σ} {delay : Nat} {deadline : Option Nat} {s : Schedule σ α}
  {jobs : List (Program α)} {p : Program α} {ready : List (Turn α)}

/-- When a job ends, the next one without a place takes its place behind the others. -/
theorem InOrder.finish (h : InOrder delay s jobs) {resumed started : List (Program α)}
    (hready : ready = resumed.map .resume ++ started.map .start)
    (hlooks : ∀ p ∈ started, LooksFirst p) (hzero : delay = 0 → resumed = []) (out : Outcome σ α) :
    InOrder delay ({ s with ready }.finish out)
      (resumed ++ s.waiting.map (·.2) ++ started ++ s.queued) := by
  refine ⟨⟨resumed, started ++ s.queued.take 1, ?_, ?_, ?_, hzero⟩, ?_, h.sorted, h.inTime,
    h.prompt, ?_⟩
  · simp [Schedule.finish, hready]
  · simp only [Schedule.finish, List.append_assoc, List.take_append_drop]
  · intro q hq
    rcases List.mem_append.mp hq with hq | hq
    · exact hlooks q hq
    · exact h.looksFirst q (List.mem_of_mem_take hq)
  · intro q hq
    exact h.looksFirst q (List.mem_of_mem_drop hq)
  · intro hnil _
    have htake : s.queued.take 1 = [] := by
      simp only [Schedule.finish, List.append_eq_nil_iff, List.map_eq_nil_iff] at hnil
      exact hnil.2
    have hqueued : s.queued = [] := by simpa using htake
    simp [Schedule.finish, hqueued]

/-- A job whose lookup is over is the first of all. -/
theorem InOrder.of_resume (h : InOrder delay s jobs) (hready : s.ready = .resume p :: ready)
    (out : Outcome σ α) :
    ∃ rest, jobs = p :: rest ∧ InOrder delay ({ s with ready }.finish out) rest := by
  obtain ⟨resumed, started, hsplit, rfl, hlooks, hzero⟩ := h.order
  cases resumed with
  | nil => cases started <;> simp [hready] at hsplit
  | cons q resumed =>
      simp only [hready, List.map_cons, List.cons_append, List.cons.injEq, Turn.resume.injEq]
        at hsplit
      obtain ⟨rfl, hsplit⟩ := hsplit
      refine ⟨resumed ++ s.waiting.map (·.2) ++ started ++ s.queued, by simp, ?_⟩
      exact h.finish hsplit hlooks (fun hdelay => by simpa using hzero hdelay) out

/-- A job that starts comes right after those that wait, since no lookup is over. -/
theorem InOrder.of_start (h : InOrder delay s jobs) (hready : s.ready = .start p :: ready) :
    ∃ started, ready = started.map .start ∧
      jobs = s.waiting.map (·.2) ++ p :: (started ++ s.queued) ∧ LooksFirst p ∧
        ∀ q ∈ started, LooksFirst q := by
  obtain ⟨resumed, started, hsplit, rfl, hlooks, -⟩ := h.order
  cases resumed with
  | cons q resumed => simp [hready] at hsplit
  | nil =>
      cases started with
      | nil => simp [hready] at hsplit
      | cons q started =>
          simp only [hready, List.map_nil, List.nil_append, List.map_cons, List.cons.injEq,
            Turn.start.injEq] at hsplit
          obtain ⟨rfl, hsplit⟩ := hsplit
          refine ⟨started, hsplit, by simp, hlooks p (by simp), ?_⟩
          exact fun q hq => hlooks q (by simp [hq])

theorem InOrder.finish_start (h : InOrder delay s jobs) {started : List (Program α)}
    (hready : ready = started.map .start) (hlooks : ∀ q ∈ started, LooksFirst q)
    (out : Outcome σ α) :
    InOrder delay ({ s with ready }.finish out)
      (s.waiting.map (·.2) ++ (started ++ s.queued)) := by
  have hfinish := h.finish (by simpa using hready) hlooks (fun _ => rfl) out
  simpa only [List.nil_append, List.append_assoc] using hfinish

theorem InOrder.suspend (h : InOrder delay s jobs) {started : List (Program α)}
    (hready : ready = started.map .start) (hlooks : ∀ q ∈ started, LooksFirst q)
    (hdelay : delay ≠ 0) (out : Outcome σ (Program α)) :
    InOrder delay ({ s with ready }.suspend delay out)
      (s.waiting.map (·.2) ++ out.value :: (started ++ s.queued)) := by
  refine ⟨⟨[], started, ?_, ?_, hlooks, fun _ => rfl⟩, h.looksFirst, ?_, ?_, ?_, ?_⟩
  · simpa [Schedule.suspend] using hready
  · simp [Schedule.suspend]
  · refine List.pairwise_append.mpr ⟨h.sorted, by simp, ?_⟩
    intro v hv w hw
    obtain rfl := List.mem_singleton.mp hw
    exact (h.inTime v hv).2
  · intro w hw
    rcases List.mem_append.mp hw with hw | hw
    · exact h.inTime w hw
    · obtain rfl := List.mem_singleton.mp hw
      simp [Schedule.suspend]
  · exact fun hzero => absurd hzero hdelay
  · simp [Schedule.suspend]

theorem InOrder.wake (h : InOrder delay s jobs) (hready : s.ready = [])
    {first : Nat × Program α} {rest : List (Nat × Program α)}
    (hwaiting : s.waiting = first :: rest) :
    InOrder delay (s.wake (wakeUp first rest)) jobs := by
  obtain ⟨resumed, started, hsplit, rfl, -, -⟩ := h.order
  obtain ⟨rfl, rfl⟩ : resumed = [] ∧ started = [] := by simpa [hready] using hsplit
  obtain ⟨w, hw, hinstant⟩ := exists_wakeUp first rest
  have hle := wakeUp_le first rest
  rw [← hwaiting] at hw hle
  generalize wakeUp first rest = instant at hinstant hle
  have hnow := (h.inTime w hw).1
  refine ⟨⟨(s.waiting.filter (·.1 = instant)).map (·.2), [], ?_, ?_, by simp, ?_⟩, h.looksFirst,
    h.sorted.filter _, ?_, ?_, ?_⟩
  · simp [Schedule.wake, hready, Function.comp_def]
  · simp only [Schedule.wake, List.nil_append, List.append_nil, ← List.map_append,
      filter_append_filter_of_sorted h.sorted hle]
  · intro hdelay
    simp [h.prompt hdelay]
  · intro v hv
    have hv := List.mem_of_mem_filter hv
    have hvtime := h.inTime v hv
    have hvle := hle v hv
    simp only [Schedule.wake]
    omega
  · intro hdelay
    simp [Schedule.wake, h.prompt hdelay]
  · intro hnil
    have hmem : w ∈ s.waiting.filter (·.1 = instant) :=
      List.mem_filter.mpr ⟨hw, by simpa using hinstant⟩
    simp only [Schedule.wake, List.append_eq_nil_iff, List.map_eq_nil_iff] at hnil
    rw [hnil.2] at hmem
    simp at hmem

end InOrder

/-- Jobs that look something up before they do anything else take effect in their order. -/
theorem InOrder.inSequence {client : Client σ} {delay : Nat} {deadline : Option Nat}
    {s : Schedule σ α} {jobs : List (Program α)} (h : InOrder delay s jobs) :
    InSequence client deadline jobs s.state s.values (s.run client delay deadline) := by
  fun_induction Schedule.run client delay deadline s generalizing jobs with
  | case1 s p ready hready hdelay ih =>
      obtain ⟨started, hrest, rfl, -, hlooks⟩ := h.of_start hready
      have hnext := ih (h.finish_start hrest hlooks _)
      rw [h.prompt hdelay] at hnext ⊢
      exact hnext.cons
  | case2 s p ready hready hdelay out a hout =>
      rename_i ih
      obtain ⟨started, hrest, rfl, hp, hlooks⟩ := h.of_start hready
      have hnext := ih (h.finish_start hrest hlooks _)
      have hsilent : p.afterLogs = done a := by rw [← hp.value_runToLookup, hout]
      have hstate : out.state = s.state := hp.state_runToLookup s.state
      refine InSequence.insert hsilent ?_
      rw [← hstate]
      exact hnext
  | case3 s p ready hready hdelay out hout =>
      rename_i ih
      obtain ⟨started, hrest, rfl, hp, hlooks⟩ := h.of_start hready
      have hnext := ih (h.suspend hrest hlooks hdelay out)
      have hvalue : out.value = p.afterLogs := hp.value_runToLookup s.state
      have hstate : out.state = s.state := hp.state_runToLookup s.state
      have hjobs : (s.waiting.map (·.2) ++ p :: (started ++ s.queued)).map afterLogs =
          (s.waiting.map (·.2) ++ out.value :: (started ++ s.queued)).map afterLogs := by
        simp [hvalue]
      refine InSequence.of_afterLogs hjobs ?_
      rw [← hstate]
      exact hnext
  | case4 s p ready hready ih =>
      obtain ⟨rest, rfl, hrest⟩ := h.of_resume hready (p.run client s.state)
      exact (ih hrest).cons
  | case5 s hready hwaiting =>
      obtain ⟨resumed, started, hsplit, rfl, -, -⟩ := h.order
      obtain ⟨rfl, rfl⟩ : resumed = [] ∧ started = [] := by simpa [hready] using hsplit
      rw [hwaiting, h.filled hready hwaiting]
      exact ⟨⟨0, rfl, by simp⟩, by simp [endValues], by simp⟩
  | case6 s hready first rest hwaiting instant =>
      rename_i hlate
      refine ⟨⟨0, rfl, by simp⟩, by simp, fun _ => ?_⟩
      cases deadline with
      | none => simp at hlate
      | some t => rfl
  | case7 s hready first rest hwaiting instant =>
      rename_i hlate ih
      exact ih (h.wake hready hwaiting)

theorem inOrder_ofJobs {workers : Nat} (hworkers : 0 < workers) {jobs : List (Program α)}
    (hlooks : ∀ p ∈ jobs, LooksFirst p) (delay : Nat) (state : σ) :
    InOrder delay (ofJobs workers jobs state) jobs := by
  refine ⟨⟨[], jobs.take workers, ?_, ?_, ?_, fun _ => rfl⟩, ?_, .nil, by simp [ofJobs],
    fun _ => rfl, ?_⟩
  · simp [ofJobs]
  · simp [ofJobs]
  · exact fun p hp => hlooks p (List.mem_of_mem_take hp)
  · exact fun p hp => hlooks p (List.mem_of_mem_drop hp)
  · intro hready _
    cases jobs with
    | nil => simp [ofJobs]
    | cons p jobs =>
        obtain ⟨n, rfl⟩ := Nat.exists_eq_add_of_lt hworkers
        simp [ofJobs] at hready

end Reconcile.Schedule

end GroupKeeper
