import SubjectRules.CommandLine.Invocation
import SubjectRules.Document.Reader
import SubjectRules.Json.Reader

/-!
# Running a command

A command reads its files, does its work and prints a report.  It ends with 0 when the
subject passes or the document has no faults, with 1 when not, and with 2 when it could
not be carried out.  How the texts of documents and subjects are read is left to the
readers at hand.
-/

namespace SubjectRules.CommandLine

structure Files where
  /-- The content of a file, or why it cannot be read. -/
  read : String → Except String String
  /-- Standard input, unless a person would have to type it. -/
  standardInput : Option String

structure Outcome where
  exit : Nat
  output : List String := []
  messages : List String := []
  deriving DecidableEq, Repr

def Outcome.text (lines : List String) : String := String.join (lines.map (· ++ "\n"))

def versionText : String := "ruletree 0.1.0"

/-! ## Reading -/

/-- Readers of rule documents and of subjects; a text that is neither has a message. -/
class TextReaders where
  document : String → Except String Document
  subject : String → Except String Json

def subjectDepth : Nat := 127

instance : TextReaders where
  document source := (Document.parse source).mapError Yaml.ReadError.message
  subject source := (Json.read subjectDepth source).mapError Json.ReadError.message

def readInput (files : Files) : Option String → Except String String
  | some path =>
      match files.read path with
      | .ok source => .ok source
      | .error reason => .error ("failed to read '" ++ path ++ "': " ++ reason)
  | none =>
      match files.standardInput with
      | some source => .ok source
      | none => .error "no subject provided; use --input or pipe JSON via stdin"

section

variable [TextReaders]

def readDocument (files : Files) (path : String) : Except String Document :=
  let read : Except Rejection Document := do
    let source ← (files.read path).mapError (.unreadable path)
    (TextReaders.document source).mapError .unparsable
  read.mapError Rejection.chain

def parseSubject (source : String) : Except String Json.Fields :=
  match TextReaders.subject source with
  | .error message => .error ("subject is not valid JSON: " ++ message)
  | .ok (.obj fields) => .ok fields
  | .ok _ => .error "subject must be a JSON object"

end

/-! ## Printing -/

def faultLine (fault : Fault) : String := "warning [" ++ fault.code ++ "] " ++ fault.message

def label (outer key : String) : String := if outer.isEmpty then key else outer ++ "." ++ key

mutual

def failureLine (path : String) : Json → List String
  | .obj fields => failureLines path fields
  | failure => ["  " ++ path ++ ": " ++ String.intercalate ", " (wireCodes failure)]

def failureLines (outer : String) : List (String × Json) → List String
  | [] => []
  | (key, value) :: rest => failureLine (label outer key) value ++ failureLines outer rest

end

def pathLabel (path : FieldPath) : String := String.intercalate "." path

def decisionReport (format : Format) : Decision → Outcome
  | .proceed subject =>
      let subject := Json.obj (subject.getD [])
      let output :=
        match format with
        | .json => [(Json.obj [("valid", .bool true), ("subject", subject)]).text]
        | .pretty => ["OK subject passed", subject.pretty]
      { exit := 0, output }
  | .rejected failures =>
      let output :=
        match format with
        | .json => [(Json.obj [("valid", .bool false), ("errors", failures.toJson)]).text]
        | .pretty =>
            ("FAILED " ++ Decimal.digitText failures.fieldCount ++ " field(s) failed")
              :: failureLines "" failures.fields
      { exit := 1, output }

def faultJson (fault : Fault) : Json :=
  .obj [("code", .str fault.code), ("message", .str fault.message)]

def sectionLines (name : String) (paths : List String) : List String :=
  (name ++ " (" ++ Decimal.digitText paths.length ++ ")") :: paths.map ("  " ++ ·)

def rulesReport [PatternEngine] (format : Format) (rules : Rules) : Outcome :=
  let transformation := rules.transformation.leafPaths.map pathLabel
  let validation := rules.validation.leafPaths.map pathLabel
  let exit := if rules.faults.isEmpty then 0 else 1
  match format with
  | .json =>
      let report : Json :=
        .obj
          [("abort_early", Json.ofOption (rules.abortEarly.map Json.bool)),
            ("transform", .arr (transformation.map Json.str)),
            ("validate", .arr (validation.map Json.str)),
            ("faults", .arr (rules.faults.map faultJson))]
      { exit, output := [report.pretty] }
  | .pretty =>
      { exit
        output := sectionLines "transform" transformation ++ sectionLines "validate" validation
        messages := rules.faults.map faultLine }

def errorReport (format : Format) (message : String) : Outcome :=
  match format with
  | .json => { exit := 2, output := [(Json.obj [("error", .str message)]).text] }
  | .pretty => { exit := 2, messages := ["error: " ++ message] }

/-! ## Commands -/

variable [PatternEngine]

def subjectGuard (rules : Rules) (abortEarly : Bool) : Guard Empty :=
  let options := rules.guardOptions {}
  ⟨⟨options.abortEarly || abortEarly⟩, fun _ => pure ()⟩

def decisionOn (rules : Rules) (abortEarly : Bool) (subject : Json.Fields) : Decision :=
  let call : Call := { arguments := some subject, parentType := "cli", fieldName := "check" }
  ((subjectGuard rules abortEarly).check rules.callRules call).value.value

variable [TextReaders]

def check (files : Files) (format : Format) (rules : Rules) (input : Option String)
    (abortEarly : Bool) : Outcome :=
  let subject : Except String Json.Fields := do parseSubject (← readInput files input)
  let outcome :=
    match subject with
    | .error message => errorReport format message
    | .ok subject => decisionReport format (decisionOn rules abortEarly subject)
  match format with
  | .json => outcome
  | .pretty => { outcome with messages := rules.faults.map faultLine ++ outcome.messages }

variable [Yaml.JsonForm]

def run (files : Files) (invocation : Invocation) : Outcome :=
  let format := invocation.format
  match invocation.command with
  | .check path input abortEarly =>
      match readDocument files path with
      | .error message => errorReport format message
      | .ok document => check files format document.compile input abortEarly
  | .rules path =>
      match readDocument files path with
      | .error message => errorReport format message
      | .ok document => rulesReport format document.compile

def respond (files : Files) : Request → Outcome
  | .run invocation => run files invocation
  | .version => { exit := 0, output := [versionText] }
  | .help => { exit := 0 }
  | .misuse => { exit := 2, messages := ["error: the command line is not understood"] }

end SubjectRules.CommandLine
