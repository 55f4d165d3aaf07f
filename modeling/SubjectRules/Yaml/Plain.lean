import SubjectRules.Yaml.Cursor

/-!
# Plain scalars as text

A plain scalar ends at a comment, at a colon that separates, at a document mark and,
outside brackets, at a line that is not indented further than what holds it.  Inside
brackets it also ends at commas and brackets.
-/

namespace SubjectRules.Yaml

def isFlowIndicator (c : Char) : Bool :=
  c = ',' || c = '[' || c = ']' || c = '{' || c = '}'

def endsPlain (inFlow : Bool) (c : Cursor) : Bool :=
  c.isAt ':' && c.separatedAt 1 || inFlow && c.rest.head?.any isFlowIndicator

def strayColon (inFlow : Bool) (c : Cursor) : Bool :=
  inFlow && c.isAt ':' && c.rest[1]?.any fun d => isFlowIndicator d || d = '?'

/-- Reads a plain scalar.  `acc` is the text before, reversed, and `gap` what has been
passed since.  Says also whether line breaks were passed at the end. -/
def readPlain (inFlow : Bool) (indent : Int) :
    Nat → List Char → Gap → Bool → Cursor → Except ReadError (String × Bool × Cursor)
  | 0, acc, gap, _, c => .ok (String.ofList acc.reverse, gap.broken, c)
  | fuel + 1, acc, gap, fresh, c =>
      let finish := .ok (String.ofList acc.reverse, gap.broken, c)
      if fresh && (c.atDocumentMark || c.isAt '#') then finish
      else
        match c.rest with
        | [] => finish
        | head :: _ =>
            if isBlankOrBreak head then
              match Gap.read indent fuel gap c with
              | .error e => .error e
              | .ok (gap, next) =>
                  if !inFlow && (next.column : Int) < indent then
                    .ok (String.ofList acc.reverse, gap.broken, next)
                  else readPlain inFlow indent fuel acc gap true next
            else if strayColon inFlow c then .error .token
            else if endsPlain inFlow c then finish
            else
              let acc := head :: (gap.fold.reverse ++ acc)
              readPlain inFlow indent fuel acc {} false (c.advance 1)

end SubjectRules.Yaml
