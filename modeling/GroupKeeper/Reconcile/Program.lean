import GroupKeeper.Call
import GroupKeeper.Event

/-! Programs that talk to a directory. A program is a tree of the calls it makes and the events it
logs, where each call is followed by one program for each possible answer. What a program does is
thereby open to inspection, whoever answers the calls. -/

namespace GroupKeeper

/-- A program that gives a value of type `α`. -/
inductive Program (α : Type) where
  | done (value : α)
  | log (event : Event) (rest : Program α)
  | call (c : Call) (next : Except Failure c.Reply → Program α)

namespace Program

variable {α β σ : Type}

/-- One program after another. -/
def bind : Program α → (α → Program β) → Program β
  | done a, f => f a
  | log e p, f => log e (p.bind f)
  | call c k, f => call c fun r => (k r).bind f

instance : Monad Program where
  pure := done
  bind := bind

/-- Logs an event. -/
def emit (e : Event) : Program Unit := log e (done ())

/-- Makes a call. -/
def ask (c : Call) : Program (Except Failure c.Reply) := call c done

/-- What came of running a program. -/
structure Outcome (σ α : Type) where
  value : α
  state : σ
  events : List Event

/-- Runs a program to its end against a client. -/
def run (client : Client σ) : Program α → σ → Outcome σ α
  | done a, s => ⟨a, s, []⟩
  | log e p, s =>
    let out := p.run client s
    { out with events := e :: out.events }
  | call c k, s =>
    let (reply, s) := client c s
    (k reply).run client s

/-- Runs a program up to its first group lookup, or to its end if there is none. The value is what
remains to be run. -/
def runToLookup (client : Client σ) : Program α → σ → Outcome σ (Program α)
  | done a, s => ⟨done a, s, []⟩
  | log e p, s =>
    let out := p.runToLookup client s
    { out with events := e :: out.events }
  | call c k, s =>
    if c.isLookup then ⟨call c k, s, []⟩
    else
      let (reply, s) := client c s
      (k reply).runToLookup client s

/-- Runs programs one after another and collects their values. -/
def sequence : List (Program α) → Program (List α)
  | [] => done []
  | p :: ps => do
    let a ← p
    let as ← sequence ps
    return a :: as

end Program

end GroupKeeper
