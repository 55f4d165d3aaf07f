import SubjectRules.CommandLine.Report

/-!
# The program

Reads the command line and the files it names, and prints the outcome.
-/

open SubjectRules.CommandLine

def requestedFiles : Request → List String
  | .run ⟨.check rules input _, _, _⟩ => rules :: input.toList
  | .run ⟨.rules rules, _, _⟩ => [rules]
  | _ => []

def reasonOf : IO.Error → String
  | .noFileOrDirectory .. => "No such file or directory (os error 2)"
  | .permissionDenied .. => "Permission denied (os error 13)"
  | e => toString e

def readFileText (path : String) : IO (Except String String) := do
  try
    return .ok (← IO.FS.readFile path)
  catch e => return .error (reasonOf e)

def readsInput : Request → Bool
  | .run ⟨.check _ none _, _, _⟩ => true
  | _ => false

partial def readLines (input : IO.FS.Stream) (text : String) : IO String := do
  let line ← input.getLine
  if line.isEmpty then return text else readLines input (text ++ line)

def main (args : List String) : IO UInt32 := do
  let request := Request.ofArguments (← IO.getEnv "RULETREE_RULES") args
  let contents ← (requestedFiles request).mapM fun path => do return (path, ← readFileText path)
  let input ← IO.getStdin
  let standardInput ←
    if readsInput request && !(← input.isTty) then some <$> readLines input "" else pure none
  let files : Files :=
    { read := fun path => (contents.lookup path).getD (.error "file was not read")
      standardInput }
  let outcome := respond files request
  (← IO.getStderr).putStr (Outcome.text outcome.messages)
  (← IO.getStdout).putStr (Outcome.text outcome.output)
  return outcome.exit.toUInt32
