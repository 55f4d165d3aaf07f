/-!
# Reading a command line

A command line names one of two commands.  Options that every command knows may stand
before or after it, and the last of them counts.  An option with a value takes it after
an equals sign, from the next argument or, for a single letter, from the letters that
follow; no other option may be given twice in one place.
-/

namespace SubjectRules.CommandLine

inductive Format where
  | json
  | pretty
  deriving DecidableEq, Repr

def Format.ofName? (name : String) : Option Format :=
  match name with
  | "json" => some .json
  | "pretty" => some .pretty
  | _ => none

inductive Command where
  | check (rules : String) (input : Option String) (abortEarly : Bool)
  | rules (rules : String)
  deriving DecidableEq, Repr

structure Invocation where
  command : Command
  format : Format
  verbosity : Nat
  deriving DecidableEq, Repr

inductive Request where
  | run (invocation : Invocation)
  | version
  | help
  /-- The command line is not understood. -/
  | misuse
  deriving DecidableEq, Repr

/-! ## Options -/

inductive Flag where
  | format
  | verbose
  | rules
  | input
  | abortEarly
  | version
  | help
  deriving DecidableEq, Repr

inductive Scope where
  | global
  | check
  | rules
  deriving DecidableEq, Repr

namespace Flag

def takesValue : Flag → Bool
  | .format => true
  | .rules => true
  | .input => true
  | _ => false

def known : Scope → List Flag
  | .global => [.format, .verbose, .version, .help]
  | .check => [.format, .verbose, .rules, .input, .abortEarly, .help]
  | .rules => [.format, .verbose, .rules, .help]

def longName : Flag → String
  | .format => "format"
  | .verbose => "verbose"
  | .rules => "rules"
  | .input => "input"
  | .abortEarly => "abort-early"
  | .version => "version"
  | .help => "help"

def letter? : Flag → Option Char
  | .format => some 'o'
  | .verbose => some 'v'
  | .rules => some 'r'
  | .input => some 'i'
  | .abortEarly => none
  | .version => some 'V'
  | .help => some 'h'

def ofLongName? (scope : Scope) (name : String) : Option Flag :=
  (known scope).find? fun f => f.longName = name

def ofLetter? (scope : Scope) (letter : Char) : Option Flag :=
  (known scope).find? fun f => f.letter? = some letter

end Flag

structure Options where
  format : Option Format := none
  verbosity : Nat := 0
  rules : Option String := none
  input : Option String := none
  abortEarly : Bool := false
  deriving DecidableEq, Repr

inductive Stop where
  | version
  | help
  | misuse
  deriving DecidableEq, Repr

def Stop.request : Stop → Request
  | .version => .version
  | .help => .help
  | .misuse => .misuse

namespace Options

def addFlag (o : Options) : Flag → Except Stop Options
  | .verbose => .ok { o with verbosity := o.verbosity + 1 }
  | .abortEarly => if o.abortEarly then .error .misuse else .ok { o with abortEarly := true }
  | .version => .error .version
  | .help => .error .help
  | _ => .error .misuse

/-- Adds an option with its value; file names are not empty. -/
def addValue (o : Options) (flag : Flag) (value : String) : Except Stop Options :=
  match flag, value.isEmpty with
  | .format, _ =>
      match Format.ofName? value, o.format with
      | some format, none => .ok { o with format := some format }
      | _, _ => .error .misuse
  | .rules, false => if o.rules.isSome then .error .misuse else .ok { o with rules := some value }
  | .input, false => if o.input.isSome then .error .misuse else .ok { o with input := some value }
  | _, _ => .error .misuse

end Options

/-! ## Arguments -/

/-- What an argument that begins with hyphens does: it is complete, or its last option
takes the next argument. -/
inductive Effect where
  | complete (options : Options)
  | wants (options : Options) (flag : Flag)

def readLong (scope : Scope) (o : Options) (arg : List Char) : Except Stop Effect := do
  let name := String.ofList (arg.takeWhile (· ≠ '='))
  match Flag.ofLongName? scope name, arg.dropWhile (· ≠ '=') with
  | none, _ => throw .misuse
  | some flag, _ :: value =>
      if flag.takesValue then return .complete (← o.addValue flag (String.ofList value))
      else throw .misuse
  | some flag, [] =>
      if flag.takesValue then return .wants o flag else return .complete (← o.addFlag flag)

def readLetters (scope : Scope) (o : Options) : List Char → Except Stop Effect
  | [] => .ok (.complete o)
  | letter :: rest => do
      match Flag.ofLetter? scope letter with
      | none => throw .misuse
      | some flag =>
          if flag.takesValue then
            match rest with
            | [] => return .wants o flag
            | '=' :: value => return .complete (← o.addValue flag (String.ofList value))
            | value => return .complete (← o.addValue flag (String.ofList value))
          else readLetters scope (← o.addFlag flag) rest

def isOption (arg : String) : Bool := arg.toList.head? = some '-' && arg ≠ "-"

def readOption (scope : Scope) (o : Options) (arg : String) : Except Stop Effect :=
  match arg.toList with
  | '-' :: '-' :: name => readLong scope o name
  | letters => readLetters scope o (letters.drop 1)

/-- Reads options up to the first argument that is none, which is returned with those
that follow it.  `wanted` is an option that takes the next argument. -/
def readOptions (scope : Scope) (o : Options) (wanted : Option Flag) :
    List String → Except Stop (Options × List String)
  | [] => if wanted.isSome then .error .misuse else .ok (o, [])
  | arg :: rest => do
      match wanted with
      | some flag =>
          if isOption arg then throw .misuse
          readOptions scope (← o.addValue flag arg) none rest
      | none =>
          if arg = "--" then
            if rest.isEmpty then return (o, []) else throw .misuse
          if !isOption arg then return (o, arg :: rest)
          match ← readOption scope o arg with
          | .complete o => readOptions scope o none rest
          | .wants o flag => readOptions scope o (some flag) rest

/-! ## Commands -/

/-- The command whose options follow its name; `defaultRules` stands in for a rule
document that is not named. -/
def readCommand (defaultRules : Option String) (outer : Options) (scope : Scope)
    (args : List String) : Except Stop Invocation := do
  let (inner, rest) ← readOptions scope {} none args
  if !rest.isEmpty then throw .misuse
  match inner.rules <|> defaultRules with
  | none => throw .misuse
  | some rules =>
      if rules.isEmpty then throw .misuse
      let command :=
        match scope with
        | .check => Command.check rules inner.input inner.abortEarly
        | _ => Command.rules rules
      let format := (inner.format <|> outer.format).getD .pretty
      return ⟨command, format, outer.verbosity + inner.verbosity⟩

def Request.ofArguments (defaultRules : Option String) (args : List String) : Request :=
  let read : Except Stop Invocation := do
    let (outer, rest) ← readOptions .global {} none args
    match rest with
    | "check" :: rest => readCommand defaultRules outer .check rest
    | "rules" :: rest => readCommand defaultRules outer .rules rest
    | "help" :: _ => throw .help
    | _ => throw .misuse
  match read with
  | .ok invocation => .run invocation
  | .error stop => stop.request

end SubjectRules.CommandLine
