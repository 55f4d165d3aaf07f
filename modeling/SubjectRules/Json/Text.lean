import SubjectRules.Json.Basic

/-!
# The text of a JSON value

The compact form has no spaces; the indented form puts every item and field on a
line of its own, two spaces deeper than its container.  In strings only the quote,
the backslash and the control characters below U+0020 are escaped.
-/

namespace SubjectRules.Json

private def hexDigit (n : Nat) : Char := (Nat.toDigits 16 (n % 16)).headD '0'

def escape (c : Char) : List Char :=
  match c with
  | '"' => ['\\', '"']
  | '\\' => ['\\', '\\']
  | '\n' => ['\\', 'n']
  | '\r' => ['\\', 'r']
  | '\t' => ['\\', 't']
  | c =>
      if c.toNat = 0x08 then ['\\', 'b']
      else if c.toNat = 0x0C then ['\\', 'f']
      else if c.toNat < 0x20 then
        ['\\', 'u', '0', '0', hexDigit (c.toNat / 16), hexDigit c.toNat]
      else [c]

def quoted (s : String) : String :=
  String.ofList ('"' :: (s.toList.flatMap escape ++ ['"']))

mutual

def text : Json → String
  | .null => "null"
  | .bool true => "true"
  | .bool false => "false"
  | .num n => n.text
  | .str s => quoted s
  | .arr items => "[" ++ String.intercalate "," (itemTexts items) ++ "]"
  | .obj fields => "\x7b" ++ String.intercalate "," (fieldTexts fields) ++ "\x7d"

def itemTexts : List Json → List String
  | [] => []
  | v :: rest => text v :: itemTexts rest

def fieldTexts : List (String × Json) → List String
  | [] => []
  | (k, v) :: rest => (quoted k ++ ":" ++ text v) :: fieldTexts rest

end

/-- A possibly missing value as text; a missing value is the empty text. -/
def seen : Option Json → String
  | some value => value.text
  | none => ""

/-! ## Indented text -/

private def indentation (depth : Nat) : String := String.ofList (List.replicate (2 * depth) ' ')

private def block (open_ close : String) (depth : Nat) (lines : List String) : String :=
  if lines.isEmpty then open_ ++ close
  else
    let inner := indentation (depth + 1)
    open_ ++ "\n" ++ String.intercalate ",\n" (lines.map (inner ++ ·)) ++ "\n"
      ++ indentation depth ++ close

mutual

def indented (depth : Nat) : Json → String
  | .arr items => block "[" "]" depth (indentedItems (depth + 1) items)
  | .obj fields => block "\x7b" "\x7d" depth (indentedFields (depth + 1) fields)
  | .null => "null"
  | .bool true => "true"
  | .bool false => "false"
  | .num n => n.text
  | .str s => quoted s

def indentedItems (depth : Nat) : List Json → List String
  | [] => []
  | v :: rest => indented depth v :: indentedItems depth rest

def indentedFields (depth : Nat) : List (String × Json) → List String
  | [] => []
  | (k, v) :: rest => (quoted k ++ ": " ++ indented depth v) :: indentedFields depth rest

end

def pretty (value : Json) : String := value.indented 0

end SubjectRules.Json
