import GroupKeeper.Log.Directive

/-! Filters of the log. A filter is a list of directives between commas. Of the directives that
apply to a line the most specific one decides whether it is written. -/

namespace GroupKeeper

/-- The directives of a filter. -/
structure LogFilter where
  directives : List Directive
  deriving Repr, DecidableEq

namespace LogFilter

/-- The filter that a text describes. -/
def ofText? (s : String) : Option LogFilter := do
  let parts := ((s.splitOn ",").filter (!·.isEmpty))
  return ⟨(← parts.mapM Directive.ofText?).filterMap id⟩

/-- The directive that decides about a line. Of equally specific ones it is the last. -/
def deciding? (f : LogFilter) (l : LogLine) : Option Directive :=
  (f.directives.filter (·.applies l)).foldl (fun best d => match best with
    | some b => if d.isAtLeastAsSpecific b then some d else some b
    | none => some d) none

/-- Whether a line is written. -/
def allows (f : LogFilter) (l : LogLine) : Bool :=
  (f.deciding? l).any fun d => l.level.rank ≤ d.rank

end LogFilter

end GroupKeeper
