import GroupKeeper.Role
import GroupKeeper.Settings
import GroupKeeper.Text.Quoted

/-! Failures: what went wrong, and in the course of what. A failure is a cause under any number of
contexts, or several failures at once. Steps that must not stop at the first failure gather them in
a flat collection. -/

namespace GroupKeeper

/-- A mistake in a roster, found before the directory is asked for anything. -/
inductive Problem where
  | missingEmailId (name : String)
  | duplicateGroup (group : String)
  | duplicateMember (group : String) (role : Role) (email : String)
  | conflictingRoles (group email : String) (role other : Role)
  | descriptionTooLong (group : String) (length limit : Nat)
  | invalidChoice (group key value : String)
  deriving Repr, DecidableEq

/-- What a mistake is called in messages. -/
def Problem.message : Problem → String
  | missingEmailId name => "group has no email-id (name: " ++ Text.quote name ++ ")"
  | duplicateGroup group => "group " ++ Text.quote group ++ " is listed more than once"
  | duplicateMember group role email =>
    "group " ++ Text.quote group ++ " cannot have duplicate " ++ role.noun ++ " "
      ++ Text.quote email
  | conflictingRoles group email role other =>
    "group " ++ Text.quote group ++ " cannot list " ++ Text.quote email ++ " as both " ++ other.noun
      ++ " and " ++ role.noun
  | descriptionTooLong group length limit =>
    "group " ++ Text.quote group ++ " description must not exceed " ++ toString limit
      ++ " characters; is " ++ toString length
  | invalidChoice group key value =>
    "group " ++ Text.quote group ++ " setting " ++ key ++ " must be \"true\" or \"false\", got "
      ++ Text.quote value

/-- How a file could not be read. -/
inductive FileProblem where
  | notFound
  | notADirectory
  | isADirectory
  /-- The bytes of the file are no text. -/
  | notText
  /-- No file can have this name. -/
  | noName
  /-- No file can have so long a name or path. -/
  | nameTooLong
  deriving Repr, DecidableEq

/-- Failures whose wording belongs to the system and to data notations, and is not fixed here. -/
inductive Outside where
  /-- A file could not be read. -/
  | file (problem : FileProblem)
  /-- A file is not written in the expected notation. -/
  | format
  /-- The body of a response does not have the expected form. -/
  | body
  /-- No response came. -/
  | transport
  deriving Repr, DecidableEq

/-- An answer of a service that reports an error. -/
structure ServiceError where
  method : String
  url : String
  status : Nat
  message : String
  deriving Repr, DecidableEq

/-- What a service error is called in messages. -/
def ServiceError.text (e : ServiceError) : String :=
  e.method ++ " " ++ e.url ++ ": " ++ toString e.status ++ ": " ++ e.message

/-- Why something failed. -/
inductive Cause where
  /-- A mistake in the roster. -/
  | problem (p : Problem)
  /-- Something that is said in words only. -/
  | message (text : String)
  /-- A service reported an error. -/
  | service (e : ServiceError)
  /-- The in-memory directory has no such group or member. -/
  | notFound (kind key : String)
  /-- Something outside of the program. -/
  | outside (o : Outside)
  deriving Repr, DecidableEq

/-- What a cause is called in messages, if its wording is fixed here. -/
def Cause.text? : Cause → Option String
  | problem p => some p.message
  | message text => some text
  | service e => some e.text
  | notFound kind key => some (kind ++ " " ++ Text.quote key ++ " not found")
  | outside _ => none

/-- A failure. -/
inductive Failure where
  | because (cause : Cause)
  /-- A failure in the course of something. -/
  | during (context : String) (failure : Failure)
  /-- Several failures at once. -/
  | several (failures : List Failure)
  deriving Repr, Inhabited

namespace Failure

/-- A failure that is said in words only. -/
def ofMessage (text : String) : Failure := because (.message text)

/-- The failures that a failure consists of, if it is or wraps several. -/
def several? : Failure → Option (List Failure)
  | because _ => none
  | during _ f => f.several?
  | several fs => some fs

/-- The cause of a failure that is not several. -/
def cause? : Failure → Option Cause
  | because c => some c
  | during _ f => f.cause?
  | several _ => none

mutual

/-- The parts of a failure's message, the outermost context first, up to a cause whose wording is
not fixed here; and whether there is such a cause. -/
def parts : Failure → List String × Bool
  | because c => match c.text? with
    | some s => ([s], false)
    | none => ([], true)
  | during context f =>
    let (rest, cut) := f.parts
    (context :: rest, cut)
  | several fs =>
    let (texts, cut) := joined fs
    ([match texts with
      | [] => ""
      | [t] => t
      | ts => "[" ++ ", ".intercalate ts ++ "]"], cut)

/-- The messages of several failures, and whether one of them is cut short. -/
def joined : List Failure → List String × Bool
  | [] => ([], false)
  | f :: fs =>
    let (ps, cut) := f.parts
    let (ts, cuts) := joined fs
    (": ".intercalate ps :: ts, cut || cuts)

end

/-- The message of a failure, up to a cause whose wording is not fixed here. -/
def message (f : Failure) : String :=
  ": ".intercalate f.parts.1

/-- Whether a failure holds a cause whose wording is not fixed here. -/
def isCut (f : Failure) : Bool :=
  f.parts.2

end Failure

/-- The role with a given name. -/
def Role.named (name : String) : Except Failure Role :=
  match Role.ofName? name with
  | some r => .ok r
  | none => .error (.ofMessage ("invalid member role: " ++ Text.quote name))

/-- A flat collection of failures. -/
structure Failures where
  toList : List Failure
  deriving Inhabited

namespace Failures

/-- No failure. -/
def none : Failures := ⟨[]⟩

/-- Adds a failure. Of several failures at once each is added, and what they happened in is lost. -/
def push (fs : Failures) (f : Failure) : Failures :=
  match f.several? with
  | some more => ⟨fs.toList ++ more⟩
  | Option.none => ⟨fs.toList ++ [f]⟩

/-- Adds the failure of a step, if it failed. -/
def record (fs : Failures) : Except Failure Unit → Failures
  | .ok () => fs
  | .error f => fs.push f

/-- Adds the failures of another collection. -/
def append (fs more : Failures) : Failures := ⟨fs.toList ++ more.toList⟩

instance : Append Failures := ⟨append⟩

/-- The collection of one failure. -/
def of (f : Failure) : Failures := none.push f

/-- The collection of a list of failures. -/
def ofList (fs : List Failure) : Failures := fs.foldl push none

/-- Whether nothing failed. -/
def isEmpty (fs : Failures) : Bool := fs.toList.isEmpty

/-- How many failures there are. -/
def length (fs : Failures) : Nat := fs.toList.length

/-- A collection as one failure. -/
def toFailure (fs : Failures) : Failure := .several fs.toList

/-- Success if nothing failed, and the collection otherwise. -/
def result (fs : Failures) : Except Failures Unit :=
  if fs.isEmpty then .ok () else .error fs

/-- The message of a collection: that of its only failure, or all of them between brackets. -/
def message (fs : Failures) : String := fs.toFailure.message

/-- Whether some failure holds a cause whose wording is not fixed here. -/
def isCut (fs : Failures) : Bool := fs.toFailure.isCut

end Failures

end GroupKeeper
