import GroupKeeper.CommandLine.Arguments

/-! Reading the arguments of the command line, from the first to the last. The first mistake ends
it, but an option whose value stands in an argument of its own is looked at only when the next
option comes, or at the end: after the command that may follow has been read. -/

namespace GroupKeeper.CommandLine

/-- What may stand on a stretch of the command line. -/
structure Grammar where
  options : List Opt
  commands : List Command
  /-- Whether the version can be asked for. -/
  hasVersion : Bool

/-- What may stand before a command, and the command. -/
def Grammar.general : Grammar := ⟨Opt.general, Command.all, true⟩

/-- What may stand after a command. -/
def Grammar.after (c : Command) : Grammar := ⟨c.options, [], false⟩

/-- An option that has not been looked at, with its value if that has come. -/
structure Pending where
  option : Opt
  value : Option String

/-- What has been read of a stretch. -/
structure Progress where
  values : Values
  pending : Option Pending

/-- Where a stretch ends: at the end of the arguments, or at a command with what follows it. -/
abbrev Ending := Option (Command × List String)

namespace Progress

/-- Nothing has been read. -/
def start : Progress := ⟨.none, none⟩

/-- Looks at the option that has not been looked at. -/
def settle (p : Progress) : Except Usage Values :=
  match p.pending with
  | none => .ok p.values
  | some ⟨o, none⟩ => .error (.missingValue o)
  | some ⟨o, some value⟩ => p.values.putOnce o value

/-- Whether the next argument may be the value of an option. -/
def awaitsValue (p : Progress) : Option Opt :=
  match p.pending with
  | some ⟨o, none⟩ => some o
  | _ => none

end Progress

namespace Grammar

/-- Whether a word calls for a command, or for help about the commands. -/
def knowsCommand (g : Grammar) (word : String) : Bool :=
  !g.commands.isEmpty && (word = "help" || (g.commands.map (·.name)).contains word)

/-- A word that stands where none can be understood. -/
def stray (g : Grammar) (word : String) : Usage :=
  if g.commands.isEmpty then .unknownArgument word else .unknownCommand word

/-- What follows two dashes. No word can be understood there, not even a command. -/
def afterDashes (g : Grammar) (p : Progress) : List String → Except Usage (Progress × Ending)
  | [] => .ok (p, none)
  | word :: _ => .error (if g.knowsCommand word then .unknownArgument word else g.stray word)

/-- Help about a command, or about all of them. A command has no commands of its own. -/
def helpAbout (g : Grammar) : List String → Usage
  | [] => .help
  | [word] => if g.knowsCommand word then .help else .unknownCommand word
  | word :: next :: _ => .unknownCommand (if g.knowsCommand word then next else word)

/-- Asks for help or for the version, after all mistakes that came before. -/
def answer (p : Progress) (u : Usage) : Except Usage Progress := do
  let _ ← p.settle
  throw u

/-- What stands after two dashes: a name, and a value if there is an equals sign. -/
def splitOption (word : List Char) : String × Option String :=
  let name := String.ofList (word.takeWhile (· ≠ '='))
  match word.dropWhile (· ≠ '=') with
  | '=' :: value => (name, some (String.ofList value))
  | _ => (name, none)

/-- Reads an argument that begins with two dashes. -/
def readLong (g : Grammar) (p : Progress) (word : List Char) : Except Usage Progress :=
  let (name, value) := splitOption word
  let argument := "--" ++ name
  match g.options.find? (·.name == name), value with
  | some o, some value => do
    return ⟨← (← p.settle).putOnce o value, none⟩
  | some o, none => do
    return ⟨← p.settle, some ⟨o, none⟩⟩
  | none, value =>
    if name = "help" || (g.hasVersion && name = "version") then
      if value.isSome then .error (.unneededValue argument)
      else answer p (if name = "help" then .help else .version)
    else .error (.unknownArgument argument)

/-- Reads an argument that begins with one dash. Its first letter decides. -/
def readShort (g : Grammar) (p : Progress) (letter : Char) : Except Usage Progress :=
  if letter = 'h' then answer p .help
  else if g.hasVersion && letter = 'V' then answer p .version
  else .error (.unknownArgument ("-" ++ letter.toString))

/-- Reads a stretch of the command line. -/
def read (g : Grammar) (p : Progress) : List String → Except Usage (Progress × Ending)
  | [] => .ok (p, none)
  | word :: rest =>
    if p.awaitsValue.isNone && g.knowsCommand word then
      match Command.ofName? word with
      | some c => .ok (p, some (c, rest))
      | none => .error (g.helpAbout rest)
    else match word.toList with
      | ['-', '-'] => g.afterDashes p rest
      | '-' :: '-' :: cs => do g.read (← g.readLong p cs) rest
      | '-' :: c :: _ => do g.read (← g.readShort p c) rest
      | _ => match p.awaitsValue with
        | some o => g.read ⟨p.values, some ⟨o, some word⟩⟩ rest
        | none => .error (g.stray word)

/-- Takes options that have no value from the environment. -/
def fillIn (environment : String → Option String) (v : Values) : List Opt → Except Usage Values
  | [] => .ok v
  | o :: os => do
    let v ← match o.environmentName.bind environment with
      | some value => if v.has o then pure v else v.put o value
      | none => pure v
    fillIn environment v os

/-- Ends a stretch: looks at what is left, and at the environment. -/
def finish (g : Grammar) (environment : String → Option String) (p : Progress) :
    Except Usage Values := do
  fillIn environment (← p.settle) g.options

end Grammar

/-- What the arguments ask for in an environment. -/
def Invocation.ofArguments (environment : String → Option String) (arguments : List String) :
    Except Usage Invocation := do
  match ← Grammar.general.read .start arguments with
  | (p, some (c, rest)) =>
    let (q, _) ← (Grammar.after c).read .start rest
    let special ← (Grammar.after c).finish environment q
    let general ← Grammar.general.finish environment p
    return .ofValues general c special
  | (p, none) =>
    let general ← Grammar.general.finish environment p
    throw (if Opt.general.any general.has then .missingCommand else .silence)

end GroupKeeper.CommandLine
