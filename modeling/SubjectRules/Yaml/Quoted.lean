import SubjectRules.Text.Table
import SubjectRules.Yaml.Cursor

/-!
# Quoted scalars

Between single quotes a quote is written twice and nothing else is special.  Between
double quotes a backslash begins an escape, and one at the end of a line joins it to
the next.  In both, line breaks fold.
-/

namespace SubjectRules.Yaml

def escapedChar? (c : Char) : Option Char :=
  match c with
  | '0' => some (Char.ofNat 0)
  | 'a' => some (Char.ofNat 0x07)
  | 'b' => some (Char.ofNat 0x08)
  | 't' => some '\t'
  | '\t' => some '\t'
  | 'n' => some '\n'
  | 'v' => some (Char.ofNat 0x0B)
  | 'f' => some (Char.ofNat 0x0C)
  | 'r' => some '\r'
  | 'e' => some (Char.ofNat 0x1B)
  | ' ' => some ' '
  | '"' => some '"'
  | '/' => some '/'
  | '\\' => some '\\'
  | 'N' => some (Char.ofNat 0x85)
  | '_' => some (Char.ofNat 0xA0)
  | 'L' => some (Char.ofNat 0x2028)
  | 'P' => some (Char.ofNat 0x2029)
  | _ => none

def escapeWidth? (c : Char) : Option Nat :=
  match c with
  | 'x' => some 2
  | 'u' => some 4
  | 'U' => some 8
  | _ => none

def readEscape (c : Cursor) : Except ReadError (Char × Cursor) :=
  match c.rest with
  | [] => .error .escape
  | letter :: rest =>
      match escapedChar? letter, escapeWidth? letter with
      | some meaning, _ => .ok (meaning, c.advance 1)
      | none, some width =>
          let digits := rest.take width
          let n := (Text.takeHex 0 digits).1
          if digits.length < width || digits.any (fun d => (Text.hexDigitValue? d).isNone) then
            .error .escape
          else if 0xD800 ≤ n && n ≤ 0xDFFF || 0x10FFFF < n then .error .escape
          else .ok (Char.ofNat n, c.advance (width + 1))
      | none, none => .error .escape

/-- Reads a scalar after its opening quote, up to and with the closing one.  `acc` is
the text before, reversed. -/
def readQuoted (quote : Char) : Nat → List Char → Cursor → Except ReadError (String × Cursor)
  | 0, _, _ => .error .token
  | fuel + 1, acc, c =>
      if c.atDocumentMark then .error .token
      else
        match c.rest with
        | [] => .error .token
        | head :: rest =>
            if head = quote then
              if quote = '\'' && rest.head? = some '\'' then
                readQuoted quote fuel (head :: acc) (c.advance 2)
              else .ok (String.ofList acc.reverse, c.advance 1)
            else if isBlankOrBreak head then
              match Gap.read 0 fuel {} c with
              | .ok (gap, next) => readQuoted quote fuel (gap.fold.reverse ++ acc) next
              | .error e => .error e
            else if quote = '"' && head = '\\' then
              match (c.advance 1).takeBreak? with
              | some (_, next) =>
                  match Gap.read 0 fuel { escaped := true } next with
                  | .ok (gap, next) => readQuoted quote fuel (gap.fold.reverse ++ acc) next
                  | .error e => .error e
              | none =>
                  match readEscape (c.advance 1) with
                  | .ok (meaning, next) => readQuoted quote fuel (meaning :: acc) next
                  | .error e => .error e
            else readQuoted quote fuel (head :: acc) (c.advance 1)

end SubjectRules.Yaml
