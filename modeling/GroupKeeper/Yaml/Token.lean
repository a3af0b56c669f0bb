/-! Tokens of YAML texts. Indentation shows up as tokens that open and close blocks. -/

namespace GroupKeeper.Yaml

/-- How a scalar was written, as far as it matters for its meaning. -/
inductive ScalarForm where
  | plain
  | quoted
  | literal
  | folded
  deriving Repr, DecidableEq, Inhabited

/-- The smallest part of a YAML text with a meaning. -/
inductive Token where
  /-- The version that a text is written in. -/
  | version (major minor : Nat)
  /-- A handle for tags, with what it stands for. -/
  | tagHandle (handle stem : String)
  | documentStart
  | documentEnd
  | openBlockList
  | openBlockTable
  | closeBlock
  | openList
  | closeList
  | openTable
  | closeTable
  | entry
  | comma
  | key
  | value
  | anchor (name : String)
  | alias (name : String)
  | tag (handle suffix : String)
  | scalar (form : ScalarForm) (text : String)
  deriving Repr, DecidableEq, Inhabited

end GroupKeeper.Yaml
